/-
Requests that wait for their answers: a list of keys in the order in which they were used, and
for each of them what is to be done with the answer.

The two are kept apart and are changed one after the other. They stand for one table as long as
each key is in the list once, and has an entry exactly then (`Table`). A key that is used again
while it waits is what breaks this, and nothing else does (`table_put_iff`, `Table.take`). What is
put in is taken out once or still waits (`Table.perm_take`).
-/
import Mathlib.Data.List.Perm.Basic
import Mathlib.Data.List.Nodup
import SmartBike.Lib.Registry

set_option autoImplicit false

namespace Pending

variable {κ ν : Type*} [DecidableEq κ]

/-- The keys and the entries stand for one table. -/
structure Table (keys : List κ) (f : κ → Option ν) : Prop where
  nodup : keys.Nodup
  mem_iff : ∀ k, k ∈ keys ↔ (f k).isSome = true

/-- The entries of the keys, in their order. -/
def entries (keys : List κ) (f : κ → Option ν) : List (κ × ν) :=
  keys.filterMap fun k => (f k).map fun v => (k, v)

omit [DecidableEq κ] in
theorem table_empty : Table ([] : List κ) (fun _ => (none : Option ν)) :=
  ⟨List.nodup_nil, fun k => by simp⟩

/-- Entries of other keys do not change those of a list. -/
theorem entries_update {keys : List κ} {k : κ} (h : k ∉ keys) (f : κ → Option ν) (v : Option ν) :
    entries keys (Function.update f k v) = entries keys f := by
  apply List.filterMap_congr
  intro k' hk'
  have hne : k' ≠ k := by
    rintro rfl
    exact h hk'
  rw [Function.update_of_ne hne]

theorem entries_put {keys : List κ} {k : κ} (h : k ∉ keys) (f : κ → Option ν) (v : ν) :
    entries (keys ++ [k]) (Function.update f k (some v)) = entries keys f ++ [(k, v)] := by
  rw [entries, List.filterMap_append]
  refine congrArg₂ (· ++ ·) (entries_update h f (some v)) ?_
  simp

/-- **A key is put in.** The table stays one exactly if the key does not wait already. -/
theorem table_put_iff {keys : List κ} {f : κ → Option ν} (h : Table keys f) (k : κ) (v : ν) :
    Table (keys ++ [k]) (Function.update f k (some v)) ↔ k ∉ keys := by
  constructor
  · intro hput
    have hnodup := List.nodup_append.mp hput.nodup
    exact fun hk => hnodup.2.2 k hk k (List.mem_singleton_self k) rfl
  · intro hk
    refine ⟨?_, ?_⟩
    · rw [List.nodup_append]
      refine ⟨h.nodup, List.nodup_singleton k, ?_⟩
      rintro k' hk' _ hmem rfl
      rw [List.mem_singleton.mp hmem] at hk'
      exact hk hk'
    · intro k'
      rw [List.mem_append, List.mem_singleton]
      by_cases heq : k' = k
      · rw [heq, Function.update_self]
        exact iff_of_true (Or.inr rfl) rfl
      · rw [Function.update_of_ne heq, ← h.mem_iff k']
        exact or_iff_left heq

/-- **A key is taken out.** -/
theorem Table.take [BEq κ] [LawfulBEq κ] {keys : List κ} {f : κ → Option ν} (h : Table keys f) (k : κ) :
    Table (keys.erase k) (Function.update f k none) := by
  refine ⟨h.nodup.erase k, ?_⟩
  intro k'
  rw [h.nodup.mem_erase_iff]
  by_cases heq : k' = k
  · rw [heq, Function.update_self]
    simp
  · rw [Function.update_of_ne heq, ← h.mem_iff k']
    exact and_iff_right heq

/-- What is taken out was one of the entries, and the others are left. -/
theorem Table.perm_take [BEq κ] [LawfulBEq κ] {keys : List κ} {f : κ → Option ν}
    (h : Table keys f) {k : κ} {v : ν} (hv : f k = some v) :
    (entries keys f).Perm ((k, v) :: entries (keys.erase k) (Function.update f k none)) := by
  have hk : k ∈ keys := (h.mem_iff k).mpr (by rw [hv]; rfl)
  have hnot : k ∉ keys.erase k := fun hin => (h.nodup.mem_erase_iff.mp hin).1 rfl
  rw [entries_update hnot]
  have hperm := (List.perm_cons_erase hk).filterMap fun k => (f k).map fun v => (k, v)
  rwa [List.filterMap_cons_some (b := (k, v)) (by rw [hv]; rfl)] at hperm

/-! ## Several keys -/

omit [DecidableEq κ] in
theorem not_mem_of_nodup {keys keys' : List κ} {k : κ} (h : (keys ++ [k] ++ keys').Nodup) :
    k ∉ keys := by
  have hfirst := List.nodup_append.mp (List.nodup_append.mp h).1
  exact fun hk => hfirst.2.2 k hk k (List.mem_singleton_self k) rfl

/-- **Several keys are put in**, one after the other. The table stays one exactly if none of them
waits already and none is put in twice. -/
theorem table_fill_iff {keys : List κ} {f : κ → Option ν} (h : Table keys f)
    (es : List (κ × ν)) :
    Table (keys ++ es.map Prod.fst) (Registry.fill f es) ↔ (keys ++ es.map Prod.fst).Nodup := by
  refine ⟨fun hput => hput.nodup, ?_⟩
  intro hnodup
  induction es generalizing keys f with
  | nil => simpa using h
  | cons e es ih =>
    rw [List.map_cons, List.append_cons] at hnodup ⊢
    exact ih ((table_put_iff h e.1 e.2).mpr (not_mem_of_nodup hnodup)) hnodup

/-- What is known of the entries is known of those that are put in. -/
theorem fill_map {μ : Type*} {f : κ → Option ν} {g : κ → Option μ} (known : ν → μ)
    (h : ∀ k, g k = (f k).map known) (es : List (κ × ν)) (k : κ) :
    Registry.fill g (es.map fun e => (e.1, known e.2)) k = (Registry.fill f es k).map known := by
  induction es generalizing f g with
  | nil => exact h k
  | cons e es ih =>
    refine ih ?_
    intro k'
    dsimp only
    by_cases heq : k' = e.1
    · rw [heq, Function.update_self, Function.update_self]
      rfl
    · rw [Function.update_of_ne heq, Function.update_of_ne heq]
      exact h k'

theorem entries_fill {keys : List κ} (f : κ → Option ν) {es : List (κ × ν)}
    (h : (keys ++ es.map Prod.fst).Nodup) :
    entries (keys ++ es.map Prod.fst) (Registry.fill f es) = entries keys f ++ es := by
  induction es generalizing keys f with
  | nil => simp
  | cons e es ih =>
    rw [List.map_cons, List.append_cons] at h ⊢
    have hrest := ih (Function.update f e.1 (some e.2)) h
    rw [entries_put (not_mem_of_nodup h)] at hrest
    exact hrest.trans (List.append_cons (entries keys f) e es).symm

end Pending
