/-
Sending a value only when it changes.

A sender keeps the value it has sent last and sends the next one if that is another
one. What it has sent is then the sequence of the values it was given, consecutive
repetitions removed (`run_update`); in particular the last value sent is the last one
given (`getLast?_destutter`).
-/
import Mathlib.Data.List.Destutter
import SmartBike.Lib.Run

set_option autoImplicit false

open Runs

namespace OnChange

variable {α : Type*} [DecidableEq α]

/-! ## Consecutive repetitions -/

/-- Reading on from `b`, one more value counts if it differs from the one before it. -/
theorem destutter'_concat (b : α) (l : List α) (a : α) :
    (l ++ [a]).destutter' (· ≠ ·) b
      = if (l.getLast?).getD b = a then l.destutter' (· ≠ ·) b
        else l.destutter' (· ≠ ·) b ++ [a] := by
  induction l generalizing b with
  | nil =>
    rw [List.nil_append, List.destutter'_singleton]
    by_cases h : b = a
    · simp [h]
    · simp [h]
  | cons c l ih =>
    have hlast : ((c :: l).getLast?).getD b = (l.getLast?).getD c := by
      rw [List.getLast?_cons, Option.getD_some]
    rw [List.cons_append, hlast]
    by_cases hbc : b = c
    · subst hbc
      rw [List.destutter'_cons_neg _ (by simp), List.destutter'_cons_neg _ (by simp), ih]
    · rw [List.destutter'_cons_pos _ hbc, List.destutter'_cons_pos _ hbc, ih]
      split_ifs
      · rfl
      · rw [List.cons_append]

/-- One more value is one more change, unless it is the last one again. -/
theorem destutter_concat (l : List α) (a : α) :
    (l ++ [a]).destutter (· ≠ ·)
      = if l.getLast? = some a then l.destutter (· ≠ ·) else l.destutter (· ≠ ·) ++ [a] := by
  cases l with
  | nil => simp
  | cons b l =>
    rw [List.cons_append, List.destutter_cons', List.destutter_cons', destutter'_concat]
    have hlast : (b :: l).getLast? = some a ↔ (l.getLast?).getD b = a := by
      rw [List.getLast?_cons, Option.some.injEq]
    by_cases h : (l.getLast?).getD b = a
    · rw [if_pos h, if_pos (hlast.mpr h)]
    · rw [if_neg h, if_neg fun hl => h (hlast.mp hl)]

theorem getLast?_destutter (l : List α) : (l.destutter (· ≠ ·)).getLast? = l.getLast? := by
  induction l using List.reverseRecOn with
  | nil => rfl
  | append_singleton l a ih =>
    rw [destutter_concat, List.getLast?_concat]
    split_ifs with h
    · rw [ih, h]
    · rw [List.getLast?_concat]

/-! ## The sender -/

/-- The value sent last, if any, and all that was sent, oldest first. -/
structure Sender (α : Type*) where
  last : Option α
  sent : List α

namespace Sender

def init : Sender α := ⟨none, []⟩

def update (s : Sender α) (a : α) : Sender α :=
  if s.last = some a then s else ⟨some a, s.sent ++ [a]⟩

/-- **What the sender does**: it sends the changes of the values it is given. -/
theorem run_update (l : List α) : run update init l = ⟨l.getLast?, l.destutter (· ≠ ·)⟩ := by
  induction l using List.reverseRecOn with
  | nil => rfl
  | append_singleton l a ih =>
    rw [run_concat, ih, update, destutter_concat, List.getLast?_concat]
    by_cases h : l.getLast? = some a
    · rw [if_pos h, if_pos h, h]
    · rw [if_neg h, if_neg h]

end Sender

end OnChange
