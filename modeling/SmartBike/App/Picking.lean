/-
Picking the endpoints of a route, with attempts that are cancelled.

An activity that is left by the back button returns `null` to the one that has started it.
Both `onActivityResult` handlers dispatch on the request code and read the extras of what
they get without a look at it or at the result code, so `null` makes them throw, at either
depth. A pick goes through both (`run_picked`), a cancelled attempt through neither
(`attempt_of_cancelled`).
-/
import SmartBike.App.Route

set_option autoImplicit false

open Runs

namespace SmartBike.App

/-- How an attempt to pick an endpoint ends. -/
inductive Attempt (F : Type*) where
  | picked (pick : Pick F)
  -- the back button in `SearchLocationActivity`
  | cancelled
  -- the back button in `SelectMapLocationActivity`
  | cancelled_map
  deriving DecidableEq, Repr

def Attempt.Cancelled {F : Type*} : Attempt F → Prop
  | .picked _ => False
  | _ => True

/-- The code `MainActivity` starts `SearchLocationActivity` with. -/
def Endpoint.requestCode : Endpoint → ℕ
  | .start => 0
  | .dest => 1

/-- `SearchLocationActivity.onActivityResult`, with `data` perhaps `null`: what the activity
returns, if it does; `none` where it throws. -/
def search_onResult {F : Type*} (requestCode : ℕ) (data : Option (Intent F)) :
    Option (Option (Intent F)) :=
  match requestCode with
  | 0 => data.map fun data => some (search_onActivityResult data)
  | _ => some none

namespace MainActivity

variable {F : Type*} (J : DoubleText F)

/-- `MainActivity.onActivityResult`, with `data` perhaps `null`; `none` where it throws. -/
def onResult (m : MainActivity F) (requestCode : ℕ) (data : Option (Intent F)) :
    Option (MainActivity F) :=
  match requestCode with
  | 0 => data.bind (m.onActivityResult J .start)
  | 1 => data.bind (m.onActivityResult J .dest)
  | _ => some m

/-- One attempt; `none` where one of the handlers throws, which ends the app. -/
def attempt (m : MainActivity F) (requestCode : Endpoint) : Attempt F → Option (MainActivity F)
  | .picked pick => m.onResult J requestCode.requestCode (some (pick.answer J))
  | .cancelled => m.onResult J requestCode.requestCode none
  | .cancelled_map => do
    let data ← search_onResult 0 none
    m.onResult J requestCode.requestCode data

def attempts_step (m : Option (MainActivity F)) (a : Endpoint × Attempt F) :
    Option (MainActivity F) :=
  m.bind fun m => m.attempt J a.1 a.2

/-- The picks among some attempts. -/
def picks (attempts : List (Endpoint × Attempt F)) : List (Endpoint × Pick F) :=
  attempts.filterMap fun
    | (e, .picked pick) => some (e, pick)
    | _ => none

/-- No handler throws in the run; the endpoints are always the points picked last for them;
and a cancelled attempt changes neither. -/
structure Harmless (attempts : List (Endpoint × Attempt F)) : Prop where
  throws_not : ∀ pre, pre <+: attempts → run (attempts_step J) (some init) pre ≠ none
  last : ∀ pre m, pre <+: attempts → run (attempts_step J) (some init) pre = some m →
    ∀ e, m.endpoint e = latest e (picks pre)
  unchanged : ∀ pre a m m', pre ++ [a] <+: attempts → a.2.Cancelled →
    run (attempts_step J) (some init) pre = some m →
    run (attempts_step J) (some init) (pre ++ [a]) = some m' →
    ∀ e, m'.endpoint e = m.endpoint e

/-- **A cancelled attempt** throws, at whichever depth. -/
theorem attempt_of_cancelled (m : MainActivity F) (requestCode : Endpoint) {a : Attempt F}
    (h : a.Cancelled) : m.attempt J requestCode a = none := by
  cases a with
  | picked pick => exact absurd h id
  | cancelled => cases requestCode <;> rfl
  | cancelled_map => rfl

/-- A pick is delivered to the handler of its endpoint. -/
theorem attempt_of_picked (m : MainActivity F) (requestCode : Endpoint) (pick : Pick F) :
    m.attempt J requestCode (.picked pick)
      = m.onActivityResult J requestCode (pick.answer J) := by
  cases requestCode <;> rfl

theorem run_of_cancelled (pre : List (Endpoint × Attempt F)) {a : Endpoint × Attempt F}
    (h : a.2.Cancelled) : run (attempts_step J) (some init) (pre ++ [a]) = none := by
  rw [run_concat, attempts_step]
  rcases run (attempts_step J) (some init) pre with _ | m
  · rfl
  · exact m.attempt_of_cancelled J a.1 h

/-- **A run without cancelled attempts** is one of picks. -/
theorem run_picked {attempts : List (Endpoint × Attempt F)}
    (h : ∀ a ∈ attempts, ¬ a.2.Cancelled) (m : Option (MainActivity F)) :
    run (attempts_step J) m attempts = run (step J) m (picks attempts) := by
  induction attempts generalizing m with
  | nil => rfl
  | cons a attempts ih =>
    rw [List.forall_mem_cons] at h
    obtain ⟨e, outcome⟩ := a
    cases outcome with
    | cancelled => exact absurd trivial h.1
    | cancelled_map => exact absurd trivial h.1
    | picked pick =>
      have hstep : attempts_step J m (e, .picked pick) = step J m (e, pick) := by
        unfold attempts_step step
        congr 1
        funext m
        exact m.attempt_of_picked J e pick
      rw [run_cons, hstep, ih h.2]
      rfl

/-- **Cancelling a pick.** In a run of attempts nothing throws and the endpoints are the
points picked last exactly if no attempt is cancelled. -/
theorem harmless_iff (attempts : List (Endpoint × Attempt F)) :
    Harmless J attempts ↔ ∀ a ∈ attempts, ¬ a.2.Cancelled := by
  constructor
  · intro h a ha hcancelled
    obtain ⟨pre, post, rfl⟩ := List.append_of_mem ha
    refine h.throws_not (pre ++ [a]) ⟨post, ?_⟩ (run_of_cancelled J pre hcancelled)
    rw [List.append_assoc, List.singleton_append]
  · intro h
    have hpicked : ∀ pre, pre <+: attempts → ∃ m, run (attempts_step J) (some init) pre = some m ∧
        ∀ e, m.endpoint e = latest e (picks pre) := by
      intro pre hpre
      rw [run_picked J fun a ha => h a (hpre.subset ha)]
      exact run_picks J (picks pre)
    refine ⟨fun pre hpre => ?_, fun pre m hpre hm => ?_, fun pre a m m' hpre hcancelled => ?_⟩
    · obtain ⟨m, hm, -⟩ := hpicked pre hpre
      rw [hm]
      simp
    · obtain ⟨m', hm', hends⟩ := hpicked pre hpre
      obtain rfl := Option.some.inj (hm'.symm.trans hm)
      exact hends
    · exact absurd hcancelled (h a (hpre.subset (by simp)))

/-- The start is picked, and then the map is opened for the destination and left again. -/
theorem throws_on_cancel :
    ¬ Harmless whole_degrees [(.start, .picked (.item "home" ⟨37, 127⟩)), (.dest, .cancelled_map)] ∧
    run (attempts_step whole_degrees) (some init)
      [(.start, .picked (.item "home" ⟨37, 127⟩)), (.dest, .cancelled_map)] = none := by
  have hthrows := run_of_cancelled whole_degrees [(.start, .picked (.item "home" ⟨37, 127⟩))]
    (a := (.dest, .cancelled_map)) trivial
  exact ⟨fun h => h.throws_not _ List.prefix_rfl hthrows, hthrows⟩

end MainActivity

end SmartBike.App
