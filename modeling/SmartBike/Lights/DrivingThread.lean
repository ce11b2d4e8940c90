/-
The two threads of `driving_thread.py`: `left_light.run` (lines 47-79) and `right_light.run`
(lines 83-116), and what `combined_mode.py` has made of them.

`combined_mode.py` publishes what it measures and flashes one more pin, 17; between these steps
it does what `driving_thread.py` does, but for one test. There a distance above 1000 sounds the
buzzer as well, here that half of the test is a comment. So a run of `combined_mode.py` is a run
of `driving_thread.py`, with the same levels of all other pins, for as long as no distance is
above 1000 and no longer (`matches_iff`), and every run of `driving_thread.py`
without such a distance is one that `combined_mode.py` has (`followed_by_combined`).

The test of `info` is `True` in the source, its `ModeCheck` is never started, and after the
registration the script writes nothing.
-/
import SmartBike.Lib.Simulation
import SmartBike.Lights.CombinedMode

set_option autoImplicit false

open Runs

namespace SmartBike.Lights

/-- What a thread does next. -/
inductive DrivingPc where
  -- `if gpio.input(23) == 0`
  | switch
  -- the trigger pulse: low, high, low
  | trig_low
  | trig_high
  | trig_end
  -- the two loops, and `if distance < 20 or distance > 1000`
  | measure
  -- `gpio.output(26, True)`
  | buzzer_on
  -- the flash, pin 20 (21), and the end of the warning, pin 26
  | light_on
  | light_off
  | buzzer_off
  -- after an exception
  | dead
  deriving DecidableEq, Repr

structure DrivingLocal where
  pc : DrivingPc
  measuring : Measuring
  deriving DecidableEq, Repr

namespace DrivingLocal

def init : DrivingLocal := ⟨.switch, .init⟩

/-- One step of a thread, and the output it makes. -/
def step (side : Side) (th : DrivingLocal) (inp : Input) : DrivingLocal × Option (ℕ × Bool) :=
  match th.pc with
  | .switch => ({ th with pc := if inp.pressed then .trig_low else .switch }, none)
  | .trig_low => ({ th with pc := .trig_high }, some (side.trig, false))
  | .trig_high => ({ th with pc := .trig_end }, some (side.trig, true))
  | .trig_end => ({ th with pc := .measure }, some (side.trig, false))
  | .measure =>
    match th.measuring.compared inp.echo with
    | none => (⟨.dead, th.measuring.step inp.echo⟩, none)
    | some distance =>
      (⟨if distance.value < 20 ∨ 1000 < distance.value then .buzzer_on else .light_on,
        th.measuring.step inp.echo⟩, none)
  | .buzzer_on => ({ th with pc := .light_on }, some (26, true))
  | .light_on => ({ th with pc := .light_off }, some (side.light, true))
  | .light_off => ({ th with pc := .buzzer_off }, some (side.light, false))
  | .buzzer_off => ({ th with pc := .switch }, some (26, false))
  | .dead => (th, none)

end DrivingLocal

/-- Both threads, and the levels of the output pins. -/
structure DrivingThread where
  gpio : ℕ → Bool
  thread : Side → DrivingLocal

namespace DrivingThread

/-- The state in which the threads are started, with two of the output pins lowered. -/
def init (before : ℕ → Bool) : DrivingThread :=
  ⟨fun pin => if pin ∈ [20, 21] then false else before pin, fun _ => .init⟩

def output (gpio : ℕ → Bool) : Option (ℕ × Bool) → ℕ → Bool
  | none => gpio
  | some (pin, level) => Function.update gpio pin level

def step (d : DrivingThread) (l : Label) : DrivingThread :=
  let next := (d.thread l.side).step l.side l.input
  ⟨output d.gpio next.2, Function.update d.thread l.side next.1⟩

/-- No distance above 1000 is compared. -/
def Near (d : DrivingThread) (l : Label) : Prop :=
  (d.thread l.side).pc = .measure →
    ∀ distance ∈ (d.thread l.side).measuring.compared l.input.echo, distance.value ≤ 1000

instance (d : DrivingThread) (l : Label) : Decidable (d.Near l) :=
  inferInstanceAs (Decidable (_ → ∀ distance ∈ _, _))

end DrivingThread

/-! ## The steps the scripts share -/

namespace Pc

/-- Where `driving_thread.py` is; it is further on while a message is written and while pin 17
is changed. -/
def driving : Pc → DrivingPc
  | .switch => .switch
  | .trig_low => .trig_low
  | .trig_high => .trig_high
  | .trig_end => .trig_end
  | .measure => .measure
  | .buzzer_on => .buzzer_on
  | .test .off | .send .off | .assign .off => .switch
  | .test _ | .send _ | .assign _ => .light_on
  | .light_on _ => .light_on
  | .lamp_on _ => .light_off
  | .light_off _ => .light_off
  | .lamp_off _ => .buzzer_off
  | .buzzer_off _ => .buzzer_off
  | .dead => .dead

/-- How many steps there are to the next one that the scripts share. -/
def extra : Pc → ℕ
  | .test _ => 3
  | .send _ => 2
  | .assign _ => 1
  | .lamp_on _ => 1
  | .lamp_off _ => 1
  | _ => 0

end Pc

def Local.driving (th : Local) : DrivingLocal := ⟨th.pc.driving, th.measuring⟩

/-- What a step of `combined_mode.py` does to a pin. -/
def Action.pin : Action → Option (ℕ × Bool)
  | .output pin level => some (pin, level)
  | _ => none

/-- A pin that both scripts use; pin 17 and pin 18 are of `combined_mode.py` alone. -/
def Shared (pin : ℕ) : Prop := pin ≠ 17 ∧ pin ≠ 18

instance : DecidablePred Shared := fun _ => inferInstanceAs (Decidable (_ ∧ _))

namespace CombinedMode

/-- The step as one of `driving_thread.py`. -/
def driving (t : CombinedMode) (l : Label) : List Label :=
  if (t.thread l.side).pc.extra = 0 then [l] else []

/-- No distance above 1000 is compared. -/
def Near (t : CombinedMode) (l : Label) : Prop :=
  (t.thread l.side).pc = .measure →
    ∀ d ∈ (t.thread l.side).measuring.compared l.input.echo, d.value ≤ 1000

/-- Both scripts are at the same place, with the same levels. -/
structure Matches (t : CombinedMode) (d : DrivingThread) : Prop where
  thread : ∀ side, (t.thread side).driving = d.thread side
  gpio : ∀ pin, Shared pin → t.gpio pin = d.gpio pin

end CombinedMode

/-! ## One step -/

namespace Local

/-- A step that the scripts share. -/
theorem driving_step (side : Side) (th : Local) (inp : Input) (hextra : th.pc.extra = 0)
    (hnear : th.pc = .measure → ∀ d ∈ th.measuring.compared inp.echo, d.value ≤ 1000) :
    th.driving.step side inp = ((th.step side inp).1.driving, (th.step side inp).2.pin) := by
  obtain ⟨pc, measuring, t_data⟩ := th
  cases pc with
  | measure =>
    have hnear' := hnear rfl
    dsimp only at hnear'
    simp only [Local.driving, Pc.driving, DrivingLocal.step, Local.step]
    rcases hcompared : measuring.compared inp.echo with _ | distance
    · rfl
    · have hvalue : ¬ 1000 < distance.value := not_lt.mpr (hnear' distance hcompared)
      by_cases hnearby : distance.value < 20
      · simp only [if_pos hnearby, if_pos (Or.inl hnearby)]
        rfl
      · simp only [if_neg hnearby, if_neg (not_or.mpr ⟨hnearby, hvalue⟩)]
        rfl
  | switch =>
    cases h : inp.pressed with
    | true => simp [Local.driving, Pc.driving, DrivingLocal.step, Local.step, h, Action.pin]
    | false => simp [Local.driving, Pc.driving, DrivingLocal.step, Local.step, h, Action.pin]
  | test | send | assign | lamp_on | lamp_off => exact absurd hextra (by simp [Pc.extra])
  | trig_low | trig_high | trig_end | buzzer_on | light_on | light_off | buzzer_off | dead => rfl

theorem driving_published (measuring : Measuring) (t_data : Option Con) (con : Con) :
    (⟨.published con, measuring, t_data⟩ : Local).driving
      = (⟨.test con, measuring, t_data⟩ : Local).driving := by
  cases con with
  | off | on | warning => rfl

theorem extra_published (con : Con) : (Pc.published con).extra = 0 := by
  cases con with
  | off | on | warning => rfl

/-- A step that only `combined_mode.py` takes: it changes no shared pin, and there are fewer
left. -/
theorem extra_step (side : Side) (th : Local) (inp : Input) (hextra : th.pc.extra ≠ 0) :
    (th.step side inp).1.driving = th.driving ∧
      (∀ pin old, Shared pin → (th.step side inp).2.level pin old = old) ∧
      (th.step side inp).1.pc.extra < th.pc.extra := by
  obtain ⟨pc, measuring, t_data⟩ := th
  cases pc with
  | test con =>
    refine ⟨?_, fun _ _ _ => rfl, ?_⟩
    · unfold step
      dsimp only
      split_ifs
      · exact driving_published measuring t_data con
      · cases con with
        | off | on | warning => rfl
    · unfold step
      dsimp only
      split_ifs
      · rw [extra_published]
        exact Nat.zero_lt_succ 2
      · exact Nat.lt_succ_self 2
  | send con =>
    refine ⟨?_, fun _ _ _ => rfl, Nat.lt_succ_self 1⟩
    cases con with
    | off | on | warning => rfl
  | assign con =>
    refine ⟨?_, fun _ _ _ => rfl, ?_⟩
    · refine (driving_published measuring _ con).trans ?_
      cases con with
      | off | on | warning => rfl
    · change (Pc.published con).extra < 1
      rw [extra_published]
      exact Nat.zero_lt_one
  | lamp_on con => exact ⟨rfl, fun pin _ h => if_neg h.1.symm, Nat.zero_lt_one⟩
  | lamp_off con => exact ⟨rfl, fun pin _ h => if_neg h.1.symm, Nat.zero_lt_one⟩
  | switch | trig_low | trig_high | trig_end | measure | buzzer_on | light_on | light_off
  | buzzer_off | dead => exact absurd rfl hextra

end Local

theorem output_pin (a : Action) (gpio : ℕ → Bool) (pin : ℕ) :
    DrivingThread.output gpio a.pin pin = a.level pin (gpio pin) := by
  cases a with
  | nothing | sendall con => rfl
  | output pin' level =>
    change Function.update gpio pin' level pin = if pin' = pin then level else gpio pin
    rw [Function.update_apply]
    simp only [eq_comm]

namespace CombinedMode

theorem matches_init (before : ℕ → Bool) : Matches (init before) (.init before) where
  thread _ := rfl
  gpio pin hpin := by
    obtain ⟨h17, h18⟩ := hpin
    simp [init, DrivingThread.init, h17, h18]

/-- **A step without a far distance.** -/
theorem matches_step {t : CombinedMode} {d : DrivingThread} (l : Label) (h : Matches t d)
    (hnear : Near t l) : Matches (t.step l) (run DrivingThread.step d (driving t l)) := by
  unfold driving
  by_cases hextra : (t.thread l.side).pc.extra = 0
  · rw [if_pos hextra]
    have hlocal := (t.thread l.side).driving_step l.side l.input hextra hnear
    rw [h.thread l.side] at hlocal
    refine ⟨fun side => ?_, fun pin hpin => ?_⟩
    · change ((t.step l).thread side).driving = Function.update d.thread l.side _ side
      by_cases hside : side = l.side
      · subst hside
        rw [thread_step_self, Function.update_self, hlocal]
      · rw [thread_step_of_ne t l hside, Function.update_of_ne hside, h.thread]
    · change (t.step l).gpio pin = DrivingThread.output d.gpio _ pin
      rw [hlocal, output_pin, gpio_step, h.gpio pin hpin]
  · rw [if_neg hextra]
    obtain ⟨hdriving, hlevel, -⟩ := (t.thread l.side).extra_step l.side l.input hextra
    refine ⟨fun side => ?_, fun pin hpin => ?_⟩
    · by_cases hside : side = l.side
      · subst hside
        rw [thread_step_self, hdriving]
        exact h.thread l.side
      · rw [thread_step_of_ne t l hside]
        exact h.thread side
    · rw [gpio_step, hlevel pin _ hpin]
      exact h.gpio pin hpin

/-- **A step with one**: `driving_thread.py` is about to sound the buzzer. -/
theorem not_matches_step {t : CombinedMode} {d : DrivingThread} (l : Label) (h : Matches t d)
    (hfar : ¬ Near t l) : ¬ Matches (t.step l) (run DrivingThread.step d (driving t l)) := by
  unfold Near at hfar
  push Not at hfar
  obtain ⟨hpc, distance, hcompared, hvalue⟩ := hfar
  have hpc' : (d.thread l.side).pc = .measure := by
    rw [← h.thread l.side, Local.driving, hpc]
    rfl
  have hmeasuring : (d.thread l.side).measuring = (t.thread l.side).measuring := by
    rw [← h.thread l.side, Local.driving]
  have hextra : (t.thread l.side).pc.extra = 0 := by
    rw [hpc]
    rfl
  have hnot : ¬ distance.value < 20 := by
    have h20 : (20 : ℚ) < 1000 := by norm_num
    exact not_lt.mpr (h20.trans hvalue).le
  intro hmatches
  have hthread := congrArg DrivingLocal.pc (hmatches.thread l.side)
  rw [driving, if_pos hextra, thread_step_self] at hthread
  change _ = (Function.update d.thread l.side _ l.side).pc at hthread
  rw [Function.update_self, DrivingLocal.step, hpc', hmeasuring, Local.step, hpc] at hthread
  rw [Option.mem_def] at hcompared
  simp only [hcompared, if_neg hnot, if_pos (Or.inr hvalue : _ ∨ _)] at hthread
  simp [Local.driving, Pc.driving] at hthread

/-! ## Runs -/

/-- **What `combined_mode.py` kept.** Along a run of it the threads of `driving_thread.py` are at
the same places with the same levels of the shared pins, whatever the order of the threads'
steps, exactly as long as no distance above 1000 is compared. -/
theorem matches_iff (before : ℕ → Bool) (labels : List Label) :
    (∀ pre, pre <+: labels → Matches (run step (init before) pre)
      (run DrivingThread.step (.init before) (emitted step driving (init before) pre))) ↔
      Steps step Near (init before) labels :=
  simulated_iff (fun _ _ l h hnear => matches_step l h hnear)
    (fun _ _ l h hfar => not_matches_step l h hfar) (matches_init before) labels

theorem near_of_extra {t : CombinedMode} {l : Label} (h : (t.thread l.side).pc.extra ≠ 0) :
    Near t l := by
  intro hpc
  rw [hpc] at h
  exact absurd rfl h

theorem near_of_matches {t : CombinedMode} {d : DrivingThread} {l : Label} (h : Matches t d)
    (hnear : d.Near l) : Near t l := by
  intro hpc
  unfold DrivingThread.Near at hnear
  rw [← h.thread l.side] at hnear
  apply hnear
  rw [Local.driving, hpc]
  rfl

/-- Before a step of `driving_thread.py`, `combined_mode.py` may have some of its own. -/
theorem follow_step {t : CombinedMode} {d : DrivingThread} (l : Label) (h : Matches t d)
    (hnear : d.Near l) : ∃ ls, Steps step Near t ls ∧ emitted step driving t ls = [l] := by
  have hsilent : ∀ t, Matches t d → ¬ (t.thread l.side).pc.extra = 0 →
      ∃ m, (Near t m ∧ driving t m = []) ∧ Matches (t.step m) d ∧
        ((t.step m).thread l.side).pc.extra < (t.thread l.side).pc.extra := by
    intro t h hextra
    have hnothing : driving t l = [] := if_neg hextra
    have hmatches := matches_step l h (near_of_extra hextra)
    rw [hnothing] at hmatches
    refine ⟨l, ⟨near_of_extra hextra, hnothing⟩, hmatches, ?_⟩
    rw [thread_step_self]
    exact ((t.thread l.side).extra_step l.side l.input hextra).2.2
  obtain ⟨ls, hls, hmatches, hextra⟩ :=
    exists_silent (fun t : CombinedMode => (t.thread l.side).pc.extra) hsilent h
  obtain ⟨hnears, hemitted⟩ := steps_and.mp hls
  rw [steps_emitted_nil] at hemitted
  refine ⟨ls ++ [l], (steps_concat t ls l).mpr ⟨hnears, near_of_matches hmatches hnear⟩, ?_⟩
  rw [emitted_concat, hemitted, driving, if_pos hextra]
  rfl

/-- **Nothing is lost.** Every run of `driving_thread.py` in which no distance above 1000 is
compared is one that `combined_mode.py` has, with its own steps in between, and in the end the
shared pins have the same levels. -/
theorem followed_by_combined (before : ℕ → Bool) (ms : List Label)
    (h : Steps DrivingThread.step DrivingThread.Near (.init before) ms) :
    ∃ labels, Steps step Near (init before) labels ∧
      emitted step driving (init before) labels = ms ∧
      ∀ pin, Shared pin → (run step (init before) labels).gpio pin
        = (run DrivingThread.step (.init before) ms).gpio pin := by
  have hgood : ∀ t d l, Matches t d → Near t l →
      Matches (t.step l) (run DrivingThread.step d (driving t l)) :=
    fun _ _ l h hnear => matches_step l h hnear
  obtain ⟨labels, hlabels, rfl⟩ :=
    h.followed hgood (fun _ _ l h hnear => follow_step l h hnear) (matches_init before)
  exact ⟨labels, hlabels, rfl, (hlabels.simulated hgood (matches_init before)).gpio⟩

/-- The left switch is pressed, and something is 8.5 cm away. -/
def beside : Label := ⟨.left, ⟨true, ⟨[0], [1 / 2000]⟩⟩⟩

/-- Seven steps of `driving_thread.py`, after which the buzzer sounds and the light is on. -/
theorem followed_by_combined_beside :
    ∃ labels, emitted step driving (init fun _ => false) labels = List.replicate 7 beside ∧
      (run step (init fun _ => false) labels).gpio 26 = true ∧
      (run step (init fun _ => false) labels).gpio 20 = true := by
  obtain ⟨labels, -, hemitted, hgpio⟩ := followed_by_combined (fun _ => false)
    (List.replicate 7 beside) (by decide +kernel)
  refine ⟨labels, hemitted, ?_, ?_⟩
  · rw [hgpio 26 (by decide)]
    decide +kernel
  · rw [hgpio 20 (by decide)]
    decide +kernel

end CombinedMode

end SmartBike.Lights
