/-
Counting answers instead of collecting them.

A coordinator makes a request for each item of a list and goes on once it has counted as
many answers as there are items. As long as every answer it counts is to a request of this
round, and each request is answered once, a full count means that all have been answered
(`Round.complete`), and a count that is not full that somebody is still to answer, or has
answered in vain (`Round.waiting`).
-/
import Mathlib.Data.List.Perm.Basic
import Mathlib.Data.List.Basic

set_option autoImplicit false

namespace Tally

variable {α : Type*}

/-- The items of a round: those whose answers have been counted, those answered in vain, and
those still out. -/
def Round (items counted dropped out : List α) : Prop :=
  (counted ++ dropped ++ out).Perm items

theorem round_start (items : List α) : Round items [] [] items := List.Perm.refl items

variable {items counted dropped out : List α} {i : ℕ} {a : α}

/-- One of those still out, and the rest. -/
theorem perm_eraseIdx (hi : out[i]? = some a) : (a :: out.eraseIdx i).Perm out := by
  obtain ⟨hlt, rfl⟩ := List.getElem?_eq_some_iff.mp hi
  exact List.getElem_cons_eraseIdx_perm hlt

theorem Round.length_eq (h : Round items counted dropped out) :
    counted.length + dropped.length + out.length = items.length := by
  rw [← List.Perm.length_eq h, List.length_append, List.length_append]

theorem Round.drop (h : Round items counted dropped out) (hi : out[i]? = some a) :
    Round items counted (dropped ++ [a]) (out.eraseIdx i) := by
  refine List.Perm.trans ?_ h
  rw [← List.append_assoc, List.append_assoc, List.singleton_append]
  exact (perm_eraseIdx hi).append_left (counted ++ dropped)

theorem Round.count (h : Round items counted dropped out) (hi : out[i]? = some a) :
    Round items (counted ++ [a]) dropped (out.eraseIdx i) := by
  refine List.Perm.trans ?_ (h.drop hi)
  rw [List.append_assoc counted [a] dropped]
  exact (List.perm_append_comm.append_left counted).append_right _

/-- **A full count is a full answer.** -/
theorem Round.complete (h : Round items counted dropped out)
    (hcounted : counted.length = items.length) : counted.Perm items ∧ out = [] := by
  have hlength := h.length_eq
  have hdropped : dropped = [] := List.length_eq_zero_iff.mp (by omega)
  have hout : out = [] := List.length_eq_zero_iff.mp (by omega)
  subst hdropped hout
  have hperm : (counted ++ [] ++ []).Perm items := h
  rw [List.append_nil, List.append_nil] at hperm
  exact ⟨hperm, rfl⟩

/-- Where nothing is answered in vain, somebody is still out until the count is full. -/
theorem Round.waiting (h : Round items counted [] out)
    (hcounted : counted.length ≠ items.length) : out ≠ [] := by
  rintro rfl
  have hlength := h.length_eq
  simp only [List.length_nil] at hlength
  omega

end Tally
