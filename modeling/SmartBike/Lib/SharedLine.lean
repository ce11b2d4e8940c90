/-
A line that several users raise and lower.

Every user raises the line when it enters a section and lowers it when it leaves. The line
is meant to be high exactly while some user is inside, but lowering it lowers it for all.
So it is what it is meant to be exactly as long as nobody lowers it while another user is
inside (`exact_step_iff`, `exact_iff`).
-/
import Mathlib.Logic.Function.Basic
import SmartBike.Lib.Run

set_option autoImplicit false

open Runs

namespace SharedLine

variable {ι : Type*}

/-- The level of the line, and which users are in their sections. -/
@[ext] structure Line (ι : Type*) where
  high : Bool
  inside : ι → Bool

inductive Move (ι : Type*) where
  | raise (i : ι)
  | lower (i : ι)
  deriving DecidableEq, Repr

/-- The line is high exactly while somebody is inside. -/
def Exact (s : Line ι) : Prop := s.high = true ↔ ∃ i, s.inside i = true

/-- Nobody else is inside when the line is lowered. -/
def LastOut (s : Line ι) : Move ι → Prop
  | .raise _ => True
  | .lower i => ∀ j, j ≠ i → s.inside j = false

variable [DecidableEq ι]

def step (s : Line ι) : Move ι → Line ι
  | .raise i => ⟨true, Function.update s.inside i true⟩
  | .lower i => ⟨false, Function.update s.inside i false⟩

/-- **One move** leaves the line as it should be exactly if it does not lower it for
another user. -/
theorem exact_step_iff (s : Line ι) (m : Move ι) : Exact (step s m) ↔ LastOut s m := by
  cases m with
  | raise i =>
    refine iff_of_true (iff_of_true rfl ⟨i, ?_⟩) trivial
    exact Function.update_self ..
  | lower i =>
    constructor
    · intro h j hj
      by_contra hinside
      have hj' : (step s (.lower i)).inside j = true := by
        change Function.update s.inside i false j = true
        rw [Function.update_of_ne hj]
        exact Bool.not_eq_false _ ▸ hinside
      exact absurd (h.mpr ⟨j, hj'⟩) Bool.false_ne_true
    · intro h
      refine iff_of_false Bool.false_ne_true ?_
      rintro ⟨j, hj⟩
      change Function.update s.inside i false j = true at hj
      by_cases hji : j = i
      · rw [hji, Function.update_self] at hj
        exact Bool.false_ne_true hj
      · rw [Function.update_of_ne hji, h j hji] at hj
        exact Bool.false_ne_true hj

/-- **A run** has the line as it should be throughout exactly if it begins so and nobody
ever lowers it for another user. -/
theorem exact_iff (s : Line ι) (ms : List (Move ι)) :
    (∀ pre, pre <+: ms → Exact (run step s pre)) ↔ Exact s ∧ Steps step LastOut s ms := by
  have hgood : ∀ s (m : Move ι), Exact s → LastOut s m → Exact (step s m) :=
    fun s m _ hm => (exact_step_iff s m).mpr hm
  have hbad : ∀ s (m : Move ι), Exact s → ¬ LastOut s m → ¬ Exact (step s m) :=
    fun s m _ hm => mt (exact_step_iff s m).mp hm
  constructor
  · intro h
    have h0 : Exact s := h [] (List.nil_prefix)
    exact ⟨h0, (forall_prefix_iff_steps hgood (fun _ hs => hs) hbad h0 ms).mp h⟩
  · rintro ⟨h0, hsteps⟩
    exact (forall_prefix_iff_steps hgood (fun _ hs => hs) hbad h0 ms).mpr hsteps

end SharedLine
