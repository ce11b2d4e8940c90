/-
The distance measurement of `left_light.run` and `right_light.run`, which
`combined_mode.py` (lines 101-107 and 146-153) and `driving_thread.py` have in common.

After the trigger pulse two loops wait for the echo pin to rise and to fall again.
`pulse_start` is assigned in the body of the first and `pulse_end` and `distance` in that
of the second, and a loop whose test fails at once runs no body. The locals are not reset
between cycles, so what a skipped loop leaves behind is the value of an earlier cycle, or
none at all.

A `Reading` is a clock reading with the cycle in which it was taken, which the code does
not know; `own_echo_iff` says for which echoes every distance that is compared comes from
two readings of its own cycle.
-/
import Mathlib.Algebra.Order.Floor.Defs
import Mathlib.Data.Rat.Floor
import SmartBike.Lib.Run

set_option autoImplicit false

open Runs

namespace SmartBike.Lights

/-! ## The locals -/

structure Reading where
  time : ℚ
  cycle : ℕ
  deriving DecidableEq, Repr

/-- `round(x, 2)`, which rounds halves away from zero. -/
def round2 (x : ℚ) : ℚ :=
  if 0 ≤ x then (⌊x * 100 + 1 / 2⌋ : ℚ) / 100 else -((⌊-x * 100 + 1 / 2⌋ : ℚ) / 100)

/-- A value of `distance`, with the two readings it is computed from. -/
structure Distance where
  pulse_start : Reading
  pulse_end : Reading
  deriving DecidableEq, Repr

/-- The distance in centimetres. -/
def Distance.value (d : Distance) : ℚ :=
  round2 ((d.pulse_end.time - d.pulse_start.time) * 17000)

/-- The locals of `run`; `none` for one that has not been assigned. -/
structure Locals where
  pulse_start : Option Reading
  pulse_end : Option Reading
  distance : Option Distance
  deriving DecidableEq, Repr

def Locals.init : Locals := ⟨none, none, none⟩

/-- What one cycle gets to see: the clock readings while the echo pin is `0`, one for each
sample, and those while it is `1`. -/
structure Echo where
  zeros : List ℚ
  ones : List ℚ
  deriving DecidableEq, Repr

namespace Locals

/-- `while gpio.input(5) == 0`. -/
def wait_echo (cycle : ℕ) (l : Locals) : List ℚ → Locals
  | [] => l
  | t :: ts => wait_echo cycle { l with pulse_start := some ⟨t, cycle⟩ } ts

/-- `while gpio.input(5) == 1`; `none` where `pulse_start` has not been assigned. -/
def time_echo (cycle : ℕ) (l : Locals) : List ℚ → Option Locals
  | [] => some l
  | t :: ts =>
    match l.pulse_start with
    | none => none
    | some pulse_start =>
      time_echo cycle
        { l with pulse_end := some ⟨t, cycle⟩, distance := some ⟨pulse_start, ⟨t, cycle⟩⟩ } ts

/-- Both loops. -/
def measure (cycle : ℕ) (l : Locals) (e : Echo) : Option Locals :=
  (l.wait_echo cycle e.zeros).time_echo cycle e.ones

/-- The first loop leaves the last of its readings. -/
theorem wait_echo_eq (cycle : ℕ) (l : Locals) (ts : List ℚ) :
    l.wait_echo cycle ts
      = { l with pulse_start := (ts.getLast?.map fun t => ⟨t, cycle⟩).or l.pulse_start } := by
  induction ts generalizing l with
  | nil => rfl
  | cons t ts ih =>
    unfold wait_echo
    rw [ih, List.getLast?_cons]
    rcases ts.getLast? with _ | t'
    · rfl
    · rfl

/-- The second loop leaves the last of its readings, and the distance up to it. -/
theorem time_echo_eq (cycle : ℕ) (l : Locals) (ts : List ℚ) :
    l.time_echo cycle ts
      = match ts.getLast? with
        | none => some l
        | some t => l.pulse_start.map fun pulse_start =>
            { l with pulse_end := some ⟨t, cycle⟩, distance := some ⟨pulse_start, ⟨t, cycle⟩⟩ } := by
  induction ts generalizing l with
  | nil => rfl
  | cons t ts ih =>
    unfold time_echo
    rw [List.getLast?_cons]
    rcases hstart : l.pulse_start with _ | pulse_start
    · rfl
    · dsimp only
      rw [ih]
      rcases ts.getLast? with _ | t'
      · rfl
      · rfl

end Locals

/-- The echo begins and ends while the loops are watching it. -/
def Echo.Complete (e : Echo) : Prop := e.zeros ≠ [] ∧ e.ones ≠ []

instance (e : Echo) : Decidable e.Complete := inferInstanceAs (Decidable (_ ∧ _))

/-! ## Cycles -/

/-- A thread between two measuring cycles: how many it has begun, and its locals; `none`
after an exception. -/
structure Measuring where
  cycle : ℕ
  locals : Option Locals
  deriving DecidableEq, Repr

namespace Measuring

def init : Measuring := ⟨0, some .init⟩

/-- The value of `distance` in the comparison with 20; `none` where there is none. -/
def compared (t : Measuring) (e : Echo) : Option Distance :=
  t.locals.bind fun l => (l.measure t.cycle e).bind Locals.distance

/-- One cycle: the loops and the comparison. -/
def step (t : Measuring) (e : Echo) : Measuring :=
  ⟨t.cycle + 1,
    if (t.compared e).isSome then t.locals.bind fun l => l.measure t.cycle e else none⟩

/-- The comparison reads a distance, and one of two readings of this cycle. -/
def OwnEcho (t : Measuring) (e : Echo) : Prop :=
  ∃ d, t.compared e = some d ∧ d.pulse_start.cycle = t.cycle ∧ d.pulse_end.cycle = t.cycle

instance (t : Measuring) (e : Echo) : Decidable (t.OwnEcho e) :=
  match h : t.compared e with
  | none => isFalse fun ⟨_, hd, _⟩ => by rw [h] at hd; simp at hd
  | some d =>
    decidable_of_iff (d.pulse_start.cycle = t.cycle ∧ d.pulse_end.cycle = t.cycle)
      ⟨fun hown => ⟨d, h, hown⟩, fun ⟨d', hd, hown⟩ => Option.some.inj (h.symm.trans hd) ▸ hown⟩

/-- What the locals hold is from earlier cycles. -/
structure Earlier (t : Measuring) (l : Locals) : Prop where
  locals : t.locals = some l
  pulse_start : ∀ r, l.pulse_start = some r → r.cycle < t.cycle
  distance : ∀ d, l.distance = some d → d.pulse_end.cycle < t.cycle

theorem earlier_init : Earlier init .init where
  locals := rfl
  pulse_start r h := by simp [Locals.init] at h
  distance d h := by simp [Locals.init] at h

/-- A complete echo is measured, whatever the locals hold. -/
theorem measure_complete (cycle : ℕ) (l : Locals) {e : Echo} (he : e.Complete) :
    ∃ t t', l.measure cycle e
      = some ⟨some ⟨t, cycle⟩, some ⟨t', cycle⟩, some ⟨⟨t, cycle⟩, ⟨t', cycle⟩⟩⟩ := by
  obtain ⟨t, ht⟩ := Option.ne_none_iff_exists'.mp (mt List.getLast?_eq_none_iff.mp he.1)
  obtain ⟨t', ht'⟩ := Option.ne_none_iff_exists'.mp (mt List.getLast?_eq_none_iff.mp he.2)
  refine ⟨t, t', ?_⟩
  unfold Locals.measure
  rw [Locals.wait_echo_eq, Locals.time_echo_eq, ht, ht']
  rfl

/-- Without a `1` the distance of an earlier cycle is compared. -/
theorem compared_of_ones_nil {t : Measuring} {l : Locals} (h : Earlier t l) {e : Echo}
    (he : e.ones = []) : t.compared e = l.distance := by
  unfold compared Locals.measure
  rw [h.locals, Option.bind_some, he, Locals.wait_echo_eq]
  rfl

/-- Without a `0` the distance is measured from the beginning of an earlier echo. -/
theorem compared_of_zeros_nil {t : Measuring} {l : Locals} (h : Earlier t l) {e : Echo}
    (hzeros : e.zeros = []) {d : Distance} (hd : t.compared e = some d) :
    l.pulse_start = some d.pulse_start ∨ l.distance = some d := by
  unfold compared Locals.measure at hd
  rw [h.locals, Option.bind_some, hzeros, Locals.wait_echo_eq, Locals.time_echo_eq] at hd
  rcases hlast : e.ones.getLast? with _ | t'
  · rw [hlast] at hd
    exact Or.inr hd
  · rw [hlast] at hd
    rcases hstart : l.pulse_start with _ | pulse_start
    · rw [hstart] at hd
      simp at hd
    · rw [hstart] at hd
      obtain rfl := Option.some.inj hd
      exact Or.inl rfl

/-- **One cycle** compares a distance of its own exactly if its echo is complete. -/
theorem ownEcho_iff {t : Measuring} {l : Locals} (h : Earlier t l) (e : Echo) :
    t.OwnEcho e ↔ e.Complete := by
  constructor
  · rintro ⟨d, hd, hstart, hend⟩
    constructor
    · intro hzeros
      rcases compared_of_zeros_nil h hzeros hd with hl | hl
      · exact absurd (h.pulse_start _ hl) (by omega)
      · exact absurd (h.distance _ hl) (by omega)
    · intro hones
      rw [compared_of_ones_nil h hones] at hd
      exact absurd (h.distance _ hd) (by omega)
  · intro he
    obtain ⟨r, r', hmeasure⟩ := measure_complete t.cycle l he
    have hd : t.compared e = some ⟨⟨r, t.cycle⟩, ⟨r', t.cycle⟩⟩ := by
      unfold compared
      rw [h.locals, Option.bind_some, hmeasure]
      rfl
    exact ⟨_, hd, rfl, rfl⟩

theorem earlier_step {t : Measuring} {l : Locals} (h : Earlier t l) {e : Echo}
    (he : e.Complete) : ∃ l', Earlier (t.step e) l' := by
  obtain ⟨r, r', hmeasure⟩ := measure_complete t.cycle l he
  have hlocals : (t.step e).locals
      = some ⟨some ⟨r, t.cycle⟩, some ⟨r', t.cycle⟩, some ⟨⟨r, t.cycle⟩, ⟨r', t.cycle⟩⟩⟩ := by
    unfold step compared
    rw [h.locals, Option.bind_some, Option.bind_some, hmeasure]
    rfl
  refine ⟨_, hlocals, ?_, ?_⟩
  · intro r₀ hr₀
    obtain rfl := Option.some.inj hr₀
    exact Nat.lt_succ_self _
  · intro d hd
    obtain rfl := Option.some.inj hd
    exact Nat.lt_succ_self _

/-- Complete echoes keep the thread alive. -/
theorem earlier_run {echoes : List Echo} (h : ∀ e ∈ echoes, e.Complete) :
    ∃ l, Earlier (run step init echoes) l := by
  have hkeep : ∀ t e, (∃ l, Earlier t l) → e.Complete → ∃ l, Earlier (t.step e) l :=
    fun t e ⟨_, hl⟩ he => earlier_step hl he
  exact ((steps_label_iff init echoes).mpr h).invariant hkeep ⟨_, earlier_init⟩

/-- The thread goes on exactly if there was a distance to compare. -/
theorem locals_step (t : Measuring) (e : Echo) :
    (t.step e).locals = none ↔ t.compared e = none := by
  unfold step
  rcases hd : t.compared e with _ | d
  · exact iff_of_true rfl rfl
  · unfold compared at hd
    obtain ⟨l, hl, hdistance⟩ := Option.bind_eq_some_iff.mp hd
    obtain ⟨l', hmeasure, -⟩ := Option.bind_eq_some_iff.mp hdistance
    simp [hl, hmeasure]

/-- **Every decision uses its own echo** exactly if every echo is complete. -/
theorem steps_ownEcho_iff (echoes : List Echo) :
    Steps step OwnEcho init echoes ↔ ∀ e ∈ echoes, e.Complete := by
  have hkeep : ∀ t e, (∃ l, Earlier t l) → e.Complete → ∃ l, Earlier (t.step e) l :=
    fun t e ⟨_, hl⟩ he => earlier_step hl he
  have hiff : ∀ t e, (∃ l, Earlier t l) → (t.OwnEcho e ↔ e.Complete) :=
    fun t e ⟨_, hl⟩ => ownEcho_iff hl e
  rw [← steps_label_iff]
  exact steps_congr hkeep hiff ⟨_, earlier_init⟩ echoes

/-- An echo of half a millisecond, and one that is over before the second loop. -/
def short_echo : List Echo := [⟨[0], [1 / 2000]⟩, ⟨[1], []⟩]

/-- The second cycle compares the distance of the first, 8.5 cm. -/
theorem stale_distance :
    (run step init [⟨[0], [1 / 2000]⟩]).cycle = 1 ∧
      (run step init [⟨[0], [1 / 2000]⟩]).compared ⟨[1], []⟩ = some ⟨⟨0, 0⟩, ⟨1 / 2000, 0⟩⟩ ∧
      Distance.value ⟨⟨0, 0⟩, ⟨1 / 2000, 0⟩⟩ = 17 / 2 ∧
      ¬ Steps step OwnEcho init short_echo := by
  decide +kernel

end Measuring

end SmartBike.Lights
