/-
The two threads of `combined_mode.py`: `left_light.run` (lines 88-130) and
`right_light.run` (lines 134-177).

The two methods are the same but for their pins, their container and their variable
(`tl_data`, `tr_data`), so one definition describes both and `Side` says which. A thread
reads nothing the other one writes: what it does next depends on its own locals and on
what it reads from its pins (`Local.step`). Shared are the levels of the output pins and
the socket, on which a step acts (`Action`). One `gpio.output`, one test of the variable,
one `sendall` and one assignment is one step; so is the measurement with the comparison,
which only reads and computes.
-/
import SmartBike.Lights.Echo

set_option autoImplicit false

open Runs

namespace SmartBike.Lights

inductive Side where
  | left
  | right
  deriving DecidableEq, Repr

namespace Side

def other : Side → Side
  | left => right
  | right => left

/-- The pin of the trigger. -/
def trig : Side → ℕ
  | left => 6
  | right => 13

/-- The pin of the light on this side. -/
def light : Side → ℕ
  | left => 20
  | right => 21

theorem ne_iff_eq_other (s s' : Side) : s' ≠ s ↔ s' = s.other := by
  cases s <;> cases s' <;> simp [other]

end Side

/-- The `con` of a `left_light` or `right_light` message: `"0"`, `"1"` or `"2"`. -/
inductive Con where
  | off
  | on
  | warning
  deriving DecidableEq, Repr

/-- What a thread does next. Behind the tests the program remembers by its place which
`con` it is at. -/
inductive Pc where
  -- `if gpio.input(23) == 0`
  | switch
  -- the trigger pulse: low, high, low
  | trig_low
  | trig_high
  | trig_end
  -- the two loops, and `if distance < 20`
  | measure
  -- `gpio.output(26, True)`
  | buzzer_on
  -- `if tl_data != con`, `sendall` and `tl_data = con`
  | test (con : Con)
  | send (con : Con)
  | assign (con : Con)
  -- the flash, pins 20 (21) and 17, and the end of the warning, pin 26
  | light_on (con : Con)
  | lamp_on (con : Con)
  | light_off (con : Con)
  | lamp_off (con : Con)
  | buzzer_off (con : Con)
  -- after an exception
  | dead
  deriving DecidableEq, Repr

/-- Where a thread goes on after it has published `con`: the flash is for a pressed
switch only. -/
def Pc.published : Con → Pc
  | .off => .switch
  | .on => .light_on .on
  | .warning => .light_on .warning

/-- The effect of a step on what the threads share. -/
inductive Action where
  | nothing
  | output (pin : ℕ) (level : Bool)
  | sendall (con : Con)
  deriving DecidableEq, Repr

/-- The level of a pin after an action. -/
def Action.level (a : Action) (pin : ℕ) (old : Bool) : Bool :=
  match a with
  | .output pin' level => if pin' = pin then level else old
  | _ => old

/-- What an action sends. -/
def Action.messages : Action → List Con
  | .sendall con => [con]
  | _ => []

/-- One thread. -/
structure Local where
  pc : Pc
  measuring : Measuring
  -- `tl_data` or `tr_data`, `none` for the initial `""`
  t_data : Option Con
  deriving DecidableEq, Repr

/-- What a step reads: the switch is pressed (its pin is `0`), and the echo. -/
structure Input where
  pressed : Bool
  echo : Echo
  deriving DecidableEq, Repr

namespace Local

def init : Local := ⟨.switch, .init, none⟩

/-- One step of a thread. -/
def step (side : Side) (th : Local) (inp : Input) : Local × Action :=
  match th.pc with
  | .switch => ({ th with pc := if inp.pressed then .trig_low else .test .off }, .nothing)
  | .trig_low => ({ th with pc := .trig_high }, .output side.trig false)
  | .trig_high => ({ th with pc := .trig_end }, .output side.trig true)
  | .trig_end => ({ th with pc := .measure }, .output side.trig false)
  | .measure =>
    match th.measuring.compared inp.echo with
    | none => ({ th with pc := .dead, measuring := th.measuring.step inp.echo }, .nothing)
    | some distance =>
      ({ th with
          pc := if distance.value < 20 then .buzzer_on else .test .on,
          measuring := th.measuring.step inp.echo }, .nothing)
  | .buzzer_on => ({ th with pc := .test .warning }, .output 26 true)
  | .test con =>
    ({ th with pc := if th.t_data = some con then .published con else .send con }, .nothing)
  | .send con => ({ th with pc := .assign con }, .sendall con)
  | .assign con => ({ th with pc := .published con, t_data := some con }, .nothing)
  | .light_on con => ({ th with pc := .lamp_on con }, .output side.light true)
  | .lamp_on con => ({ th with pc := .light_off con }, .output 17 true)
  | .light_off con => ({ th with pc := .lamp_off con }, .output side.light false)
  | .lamp_off con => ({ th with pc := .buzzer_off con }, .output 17 false)
  | .buzzer_off _ => ({ th with pc := .switch }, .output 26 false)
  | .dead => (th, .nothing)

/-- Only the measurement concerns the locals of the measurement. -/
theorem step_measuring (side : Side) (th : Local) (inp : Input) :
    (th.step side inp).1.measuring
      = if th.pc = .measure then th.measuring.step inp.echo else th.measuring := by
  obtain ⟨pc, measuring, t_data⟩ := th
  cases pc with
  | measure =>
    unfold step
    dsimp only
    rcases measuring.compared inp.echo with _ | distance
    · rfl
    · rfl
  | _ => rfl

/-- A thread has ended exactly if it has left a measurement without a distance. -/
def Ended (th : Local) : Prop := th.pc = .dead ↔ th.measuring.locals = none

theorem published_ne_dead (con : Con) : Pc.published con ≠ .dead := by
  cases con <;> simp [Pc.published]

theorem ended_step (side : Side) {th : Local} (inp : Input) (h : th.Ended) :
    (th.step side inp).1.Ended := by
  obtain ⟨pc, measuring, t_data⟩ := th
  unfold Ended at h ⊢
  rw [step_measuring]
  cases pc with
  | measure =>
    rw [if_pos rfl, Measuring.locals_step]
    unfold step
    dsimp only
    rcases measuring.compared inp.echo with _ | distance
    · exact iff_of_true rfl rfl
    · refine iff_of_false ?_ (by simp)
      dsimp only
      split_ifs
      · simp
      · simp
  | dead => exact h
  | switch =>
    refine iff_of_false ?_ (fun hnone => absurd (h.mpr hnone) (by simp))
    unfold step
    dsimp only
    split_ifs
    · simp
    · simp
  | test con =>
    refine iff_of_false ?_ (fun hnone => absurd (h.mpr hnone) (by simp))
    unfold step
    dsimp only
    split_ifs
    · exact published_ne_dead con
    · simp
  | assign con =>
    exact iff_of_false (published_ne_dead con) (fun hnone => absurd (h.mpr hnone) (by simp))
  | _ => exact iff_of_false (by simp [step]) (fun hnone => absurd (h.mpr hnone) (by simp))

end Local

/-- A message on the socket: the container is that of the side. -/
structure Message where
  side : Side
  con : Con
  deriving DecidableEq, Repr

/-- Both threads, the levels of the output pins, and what has been sent. -/
structure CombinedMode where
  gpio : ℕ → Bool
  sent : List Message
  thread : Side → Local

/-- Which thread moves, and what it reads. -/
structure Label where
  side : Side
  input : Input
  deriving DecidableEq, Repr

namespace CombinedMode

/-- The state in which the threads are started. The script lowers four of the output pins
before; the others, 26 among them, keep the level they had. -/
def init (before : ℕ → Bool) : CombinedMode :=
  ⟨fun pin => if pin ∈ [20, 17, 21, 18] then false else before pin, [], fun _ => .init⟩

def act (side : Side) (t : CombinedMode) : Action → CombinedMode
  | .nothing => t
  | .output pin level => { t with gpio := Function.update t.gpio pin level }
  | .sendall con => { t with sent := t.sent ++ [⟨side, con⟩] }

def step (t : CombinedMode) (l : Label) : CombinedMode :=
  let next := (t.thread l.side).step l.side l.input
  { t.act l.side next.2 with thread := Function.update t.thread l.side next.1 }

/-- The messages of one side, oldest first. -/
def messages (t : CombinedMode) (side : Side) : List Con :=
  (t.sent.filter fun m => m.side = side).map Message.con

/-! ## What a step changes -/

@[simp] theorem thread_step (t : CombinedMode) (l : Label) :
    (t.step l).thread
      = Function.update t.thread l.side ((t.thread l.side).step l.side l.input).1 := rfl

theorem thread_step_self (t : CombinedMode) (l : Label) :
    (t.step l).thread l.side = ((t.thread l.side).step l.side l.input).1 := by
  rw [thread_step, Function.update_self]

theorem thread_step_of_ne (t : CombinedMode) (l : Label) {side : Side} (h : side ≠ l.side) :
    (t.step l).thread side = t.thread side := by
  rw [thread_step, Function.update_of_ne h]

theorem gpio_step (t : CombinedMode) (l : Label) (pin : ℕ) :
    (t.step l).gpio pin
      = Action.level ((t.thread l.side).step l.side l.input).2 pin (t.gpio pin) := by
  unfold step
  generalize (t.thread l.side).step l.side l.input = next
  obtain ⟨th, a⟩ := next
  cases a with
  | nothing => rfl
  | sendall con => rfl
  | output pin' level =>
    change Function.update t.gpio pin' level pin = if pin' = pin then level else t.gpio pin
    rw [Function.update_apply]
    simp only [eq_comm]

theorem messages_step_self (t : CombinedMode) (l : Label) :
    (t.step l).messages l.side
      = t.messages l.side ++ Action.messages ((t.thread l.side).step l.side l.input).2 := by
  unfold step messages
  generalize (t.thread l.side).step l.side l.input = next
  obtain ⟨th, a⟩ := next
  cases a with
  | nothing => exact (List.append_nil _).symm
  | output pin level => exact (List.append_nil _).symm
  | sendall con =>
    change ((t.sent ++ [(⟨l.side, con⟩ : Message)]).filter _).map Message.con = _
    rw [List.filter_append, List.map_append]
    simp [Action.messages]

theorem messages_step_of_ne (t : CombinedMode) (l : Label) {side : Side} (h : side ≠ l.side) :
    (t.step l).messages side = t.messages side := by
  unfold step messages
  generalize (t.thread l.side).step l.side l.input = next
  obtain ⟨th, a⟩ := next
  cases a with
  | nothing => rfl
  | output pin level => rfl
  | sendall con =>
    change ((t.sent ++ [(⟨l.side, con⟩ : Message)]).filter _).map Message.con = _
    rw [List.filter_append, List.map_append]
    simp [h.symm]

/-! ## Measurements -/

/-- The measurements of one side, as a run of their own. -/
def measurings (side : Side) : Refinement step Measuring.step where
  abs t := (t.thread side).measuring
  emit t l := if l.side = side ∧ (t.thread side).pc = .measure then [l.input.echo] else []
  abs_step t l := by
    by_cases hside : l.side = side
    · subst hside
      rw [thread_step_self, Local.step_measuring]
      by_cases hpc : (t.thread l.side).pc = .measure
      · rw [if_pos hpc, if_pos ⟨rfl, hpc⟩]
        rfl
      · rw [if_neg hpc, if_neg fun h => hpc h.2]
        rfl
    · rw [thread_step_of_ne t l (Ne.symm hside), if_neg fun h => hside h.1]
      rfl

/-- The echoes that one side has measured. -/
def echoes (side : Side) (before : ℕ → Bool) (labels : List Label) : List Echo :=
  (measurings side).trace (init before) labels

theorem ended_run (before : ℕ → Bool) (labels : List Label) (side : Side) :
    ((run step (init before) labels).thread side).Ended := by
  have hinit : ((init before).thread side).Ended := by
    refine iff_of_false ?_ ?_
    · simp [init, Local.init]
    · simp [init, Local.init, Measuring.init]
  have hstep : ∀ t l, (t.thread side).Ended → ((step t l).thread side).Ended := by
    intro t l h
    by_cases hside : l.side = side
    · subst hside
      rw [thread_step_self]
      exact Local.ended_step l.side l.input h
    · rw [thread_step_of_ne t l (Ne.symm hside)]
      exact h
  exact invariant hstep hinit labels

/-- A thread whose echoes have all been complete has not ended. -/
theorem alive_of_complete {before : ℕ → Bool} {labels : List Label} {side : Side}
    (h : ∀ e ∈ echoes side before labels, e.Complete) :
    ((run step (init before) labels).thread side).pc ≠ .dead := by
  obtain ⟨l, hl⟩ := Measuring.earlier_run h
  intro hdead
  have hnone := (ended_run before labels side).mp hdead
  have habs := (measurings side).abs_run (init before) labels
  change ((run step (init before) labels).thread side).measuring
    = run Measuring.step Measuring.init (echoes side before labels) at habs
  rw [habs, hl.locals] at hnone
  exact absurd hnone (by simp)

end CombinedMode

/-- **Every obstacle decision uses its own echo** exactly if every echo is complete. So if all those
are that a thread of `combined_mode.py` has measured, it has not ended. -/
theorem Measuring.own_echo_iff (echoes : List Echo) :
    (Steps Measuring.step Measuring.OwnEcho .init echoes ↔ ∀ e ∈ echoes, e.Complete) ∧
      ∀ before labels side, CombinedMode.echoes side before labels = echoes →
        (∀ e ∈ echoes, e.Complete) →
        ((run CombinedMode.step (.init before) labels).thread side).pc ≠ .dead := by
  refine ⟨Measuring.steps_ownEcho_iff echoes, ?_⟩
  rintro before labels side rfl hcomplete
  exact CombinedMode.alive_of_complete hcomplete

end SmartBike.Lights
