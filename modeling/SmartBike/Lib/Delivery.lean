/-
Independent requests: what is issued arrives, once, in some order.

Each request has a connection of its own, so any of the pending ones may be the next
to arrive. Nothing is lost or doubled (`perm_run`), and what has arrived for one key
is in the order of issue when no request overtakes an older one with its key
(`filter_run`): the order of the others is free.
-/
import Mathlib.Data.List.Perm.Basic
import Mathlib.Data.List.Basic
import SmartBike.Lib.Run

set_option autoImplicit false

open Runs

namespace Delivery

variable {α : Type*}

/-- The requests issued and not arrived, oldest first, and those arrived, in the order
of arrival. -/
structure Net (α : Type*) where
  pending : List α
  arrived : List α
  deriving DecidableEq, Repr

inductive Move (α : Type*) where
  | issue (a : α)
  -- the pending request at index `i` arrives
  | arrive (i : ℕ)

namespace Net

def empty : Net α := ⟨[], []⟩

def issue (n : Net α) (a : α) : Net α := { n with pending := n.pending ++ [a] }

def arrive (n : Net α) (i : ℕ) : Net α :=
  match n.pending[i]? with
  | none => n
  | some a => ⟨n.pending.eraseIdx i, n.arrived ++ [a]⟩

def step (n : Net α) : Move α → Net α
  | .issue a => n.issue a
  | .arrive i => n.arrive i

/-- The requests a run issues. -/
def issued (ms : List (Move α)) : List α :=
  ms.filterMap fun
    | .issue a => some a
    | .arrive _ => none

/-- Everything issued so far, arrived or not. -/
def all (n : Net α) : List α := n.arrived ++ n.pending

@[simp] theorem all_empty : (empty : Net α).all = [] := rfl

@[simp] theorem all_issue (n : Net α) (a : α) : (n.issue a).all = n.all ++ [a] := by
  simp only [all, issue, List.append_assoc]

theorem arrive_of_none {n : Net α} {i : ℕ} (h : n.pending[i]? = none) : n.arrive i = n := by
  simp only [arrive, h]

theorem arrive_of_some {n : Net α} {i : ℕ} {a : α} (h : n.pending[i]? = some a) :
    n.arrive i = ⟨n.pending.eraseIdx i, n.arrived ++ [a]⟩ := by
  simp only [arrive, h]

/-- **What one step does to the whole**: an arrival moves one request. -/
theorem all_arrive (n : Net α) (i : ℕ) : (n.arrive i).all.Perm n.all := by
  cases hi : n.pending[i]? with
  | none => rw [arrive_of_none hi]
  | some a =>
    obtain ⟨hlt, ha⟩ := List.getElem?_eq_some_iff.mp hi
    rw [arrive_of_some hi]
    simp only [all, List.append_assoc, List.singleton_append]
    apply List.Perm.append_left
    rw [← ha]
    exact List.getElem_cons_eraseIdx_perm hlt

theorem issued_append (ms ms' : List (Move α)) : issued (ms ++ ms') = issued ms ++ issued ms' :=
  List.filterMap_append

theorem issued_map_issue (as : List α) : issued (as.map .issue) = as := by
  induction as with
  | nil => rfl
  | cons a as ih => exact congrArg (List.cons a) ih

/-- Several requests, one after the other. -/
theorem run_map_issue (n : Net α) (as : List α) :
    (run step n (as.map .issue)).pending = n.pending ++ as ∧
      (run step n (as.map .issue)).arrived = n.arrived := by
  induction as generalizing n with
  | nil => exact ⟨(List.append_nil _).symm, rfl⟩
  | cons a as ih =>
    obtain ⟨hpending, harrived⟩ := ih (n.issue a)
    rw [List.map_cons, run_cons]
    refine ⟨?_, harrived⟩
    exact hpending.trans (List.append_cons n.pending a as).symm

/-- **Nothing is lost or doubled.** -/
theorem perm_run (n : Net α) (ms : List (Move α)) :
    (run step n ms).all.Perm (n.all ++ issued ms) := by
  induction ms using List.reverseRecOn with
  | nil => simp [issued]
  | append_singleton ms m ih =>
    rw [run_concat, issued_append, ← List.append_assoc]
    cases m with
    | issue a =>
      change ((run step n ms).issue a).all.Perm _
      rw [all_issue]
      exact ih.append_right [a]
    | arrive i =>
      change ((run step n ms).arrive i).all.Perm (n.all ++ issued ms ++ [])
      rw [List.append_nil]
      exact (all_arrive _ i).trans ih

/-! ## Order -/

section Key

variable {κ : Type*} [DecidableEq κ] (key : α → κ)

/-- The step lets no request overtake an older one with its key. -/
def InOrder (n : Net α) : Move α → Prop
  | .issue _ => True
  | .arrive i => ∀ a, n.pending[i]? = some a → ∀ b ∈ n.pending.take i, key b ≠ key a

/-- What a step in order does to one key. -/
theorem filter_step {n : Net α} {m : Move α} (h : n.InOrder key m) (k : κ) :
    (n.step m).all.filter (fun a => key a = k)
      = n.all.filter (fun a => key a = k) ++ (issued [m]).filter fun a => key a = k := by
  cases m with
  | issue a =>
    change (n.issue a).all.filter _ = _
    rw [all_issue, List.filter_append]
    rfl
  | arrive i =>
    change (n.arrive i).all.filter _ = n.all.filter _ ++ []
    rw [List.append_nil]
    cases hi : n.pending[i]? with
    | none => rw [arrive_of_none hi]
    | some a =>
      obtain ⟨hlt, ha⟩ := List.getElem?_eq_some_iff.mp hi
      have hsplit : n.pending = n.pending.take i ++ a :: n.pending.drop (i + 1) := by
        rw [← ha, List.cons_getElem_drop_succ, List.take_append_drop]
      rw [arrive_of_some hi, List.eraseIdx_eq_take_drop_succ]
      simp only [all, List.filter_append]
      conv_rhs => rw [hsplit]
      rw [List.filter_append, List.append_assoc]
      by_cases hk : key a = k
      · -- no older request has the key, so the one that arrives comes first anyway
        have hnone : (n.pending.take i).filter (fun b => key b = k) = [] := by
          rw [List.filter_eq_nil_iff]
          intro b hb
          rw [decide_eq_true_eq, ← hk]
          exact h a hi b hb
        rw [hnone]
        simp [hk]
      · simp [hk]

/-- **Order of one key.** -/
theorem filter_run {n : Net α} {ms : List (Move α)} (h : Steps step (InOrder key) n ms) (k : κ) :
    (run step n ms).all.filter (fun a => key a = k)
      = n.all.filter (fun a => key a = k) ++ (issued ms).filter fun a => key a = k := by
  induction ms generalizing n with
  | nil => simp [issued]
  | cons m ms ih =>
    rw [run_cons, ih h.2, filter_step key h.1, List.append_assoc, ← List.filter_append,
      ← issued_append, List.singleton_append]

end Key

end Net

end Delivery
