/-
The outputs that the two threads share: the lamp on pin 17 and the buzzer on pin 26.

Each is a line that both threads raise and lower (`SharedLine`). A thread is in its section
for the lamp between the two `output`s of its flash, and in its section for the buzzer from
`gpio.output(26, True)` to the `gpio.output(26, False)` at the end of the flash, which it
also does when it has not raised the pin. So the pins say what they are meant to say in
every state of a run exactly as long as no thread lowers one in the other's section
(`outputs_iff`).
-/
import SmartBike.Lib.SharedLine
import SmartBike.Lights.CombinedMode

set_option autoImplicit false

open Runs SharedLine

namespace SmartBike.Lights

/-- The two outputs. -/
inductive Warning where
  | lamp
  | buzzer
  deriving DecidableEq, Repr

namespace Warning

def pin : Warning → ℕ
  | lamp => 17
  | buzzer => 26

end Warning

namespace Pc

/-- The thread has raised the output and not yet lowered it. -/
def inside : Warning → Pc → Bool
  | .lamp, .light_off _ => true
  | .lamp, .lamp_off _ => true
  | .buzzer, .test .warning => true
  | .buzzer, .send .warning => true
  | .buzzer, .assign .warning => true
  | .buzzer, .light_on .warning => true
  | .buzzer, .lamp_on .warning => true
  | .buzzer, .light_off .warning => true
  | .buzzer, .lamp_off .warning => true
  | .buzzer, .buzzer_off .warning => true
  | _, _ => false

/-- The next step lowers the output. -/
def lowers : Warning → Pc → Bool
  | .lamp, .lamp_off _ => true
  | .buzzer, .buzzer_off _ => true
  | _, _ => false

/-- The next step raises the output. -/
def raises : Warning → Pc → Bool
  | .lamp, .lamp_on _ => true
  | .buzzer, .buzzer_on => true
  | _, _ => false

/-- What the next step does to the line. -/
def moves (w : Warning) (side : Side) (pc : Pc) : List (Move Side) :=
  if pc.raises w then [.raise side] else if pc.lowers w then [.lower side] else []

theorem length_moves (w : Warning) (side : Side) (pc : Pc) : (moves w side pc).length ≤ 1 := by
  unfold moves
  split_ifs <;> simp

theorem lowers_eq_false {w : Warning} {pc : Pc} (h : pc.raises w = true) :
    pc.lowers w = false := by
  cases w <;> cases pc <;> first | rfl | exact absurd h Bool.false_ne_true

theorem inside_published (w : Warning) (con : Con) :
    (published con).inside w = (test con).inside w := by
  cases w <;> cases con <;> rfl

end Pc

namespace Local

/-- **One step of a thread** does to a line what `Pc.moves` says, and to nothing else. -/
theorem step_line (w : Warning) (side : Side) (th : Local) (inp : Input) (old : Bool) :
    (Action.level (th.step side inp).2 w.pin old, (th.step side inp).1.pc.inside w)
      = if th.pc.raises w then (true, true)
        else if th.pc.lowers w then (false, false)
        else (old, th.pc.inside w) := by
  obtain ⟨pc, measuring, t_data⟩ := th
  cases pc with
  | switch =>
    unfold step
    dsimp only
    by_cases h : inp.pressed = true
    · rw [if_pos h]
      cases w <;> rfl
    · rw [if_neg h]
      cases w <;> rfl
  | measure =>
    unfold step
    dsimp only
    rcases measuring.compared inp.echo with _ | distance
    · cases w <;> rfl
    · dsimp only
      by_cases h : distance.value < 20
      · rw [if_pos h]
        cases w <;> rfl
      · rw [if_neg h]
        cases w <;> rfl
  | test con =>
    unfold step
    dsimp only
    by_cases h : t_data = some con
    · rw [if_pos h, Pc.inside_published]
      cases w <;> rfl
    · rw [if_neg h]
      cases w <;> cases con <;> rfl
  | assign con =>
    change (old, (Pc.published con).inside w) = _
    rw [Pc.inside_published]
    cases w <;> cases con <;> rfl
  | dead => cases w <;> rfl
  | buzzer_on => cases w <;> rfl
  | trig_low => cases w <;> cases side <;> rfl
  | trig_high => cases w <;> cases side <;> rfl
  | trig_end => cases w <;> cases side <;> rfl
  | send con => cases w <;> cases con <;> rfl
  | light_on con => cases w <;> cases side <;> cases con <;> rfl
  | lamp_on con => cases w <;> cases con <;> rfl
  | light_off con => cases w <;> cases side <;> cases con <;> rfl
  | lamp_off con => cases w <;> cases con <;> rfl
  | buzzer_off con => cases w <;> rfl

end Local

namespace CombinedMode

/-! ## Each output as a line -/

/-- The level of an output, and which threads are in their sections. -/
def line (w : Warning) (t : CombinedMode) : Line Side :=
  ⟨t.gpio w.pin, fun side => (t.thread side).pc.inside w⟩

theorem line_step (w : Warning) (t : CombinedMode) (l : Label) :
    line w (t.step l)
      = ⟨(t.step l).gpio w.pin, Function.update (line w t).inside l.side
          (((t.step l).thread l.side).pc.inside w)⟩ := by
  ext side
  · rfl
  · change ((t.step l).thread side).pc.inside w = Function.update (line w t).inside _ _ side
    by_cases h : side = l.side
    · rw [h, Function.update_self]
    · rw [Function.update_of_ne h, thread_step_of_ne t l h]
      rfl

/-- The two threads, as users of an output. -/
def lines (w : Warning) : Refinement step (SharedLine.step : Line Side → Move Side → Line Side) where
  abs := line w
  emit t l := Pc.moves w l.side (t.thread l.side).pc
  abs_step t l := by
    have hline := (t.thread l.side).step_line w l.side l.input (t.gpio w.pin)
    rw [← gpio_step, ← thread_step_self] at hline
    rw [line_step]
    unfold Pc.moves
    split_ifs at hline ⊢ with hraises hlowers
    · obtain ⟨hlevel, hinside⟩ := Prod.mk.inj hline
      rw [hlevel, hinside]
      rfl
    · obtain ⟨hlevel, hinside⟩ := Prod.mk.inj hline
      rw [hlevel, hinside]
      rfl
    · obtain ⟨hlevel, hinside⟩ := Prod.mk.inj hline
      rw [hlevel, hinside]
      exact congrArg (Line.mk _) (Function.update_eq_self _ _)

/-- The output is high exactly while at least one thread is in its section for it. -/
def Warned (w : Warning) (t : CombinedMode) : Prop :=
  t.gpio w.pin = true ↔ ∃ side, (t.thread side).pc.inside w = true

/-- The step does not lower the output in the other thread's section. -/
def Apart (w : Warning) (t : CombinedMode) (l : Label) : Prop :=
  (t.thread l.side).pc.lowers w = true → (t.thread l.side.other).pc.inside w = false

instance (w : Warning) (t : CombinedMode) (l : Label) : Decidable (t.Apart w l) :=
  inferInstanceAs (Decidable (_ → _))

theorem apart_iff (w : Warning) (t : CombinedMode) (l : Label) :
    t.Apart w l ↔ Steps SharedLine.step LastOut (line w t) ((lines w).emit t l) := by
  change t.Apart w l ↔ Steps _ _ _ (Pc.moves w l.side (t.thread l.side).pc)
  unfold Apart Pc.moves
  split_ifs with hraises hlowers
  · rw [Pc.lowers_eq_false hraises]
    simp [LastOut]
  · rw [hlowers, steps_cons]
    change (true = true → (line w t).inside l.side.other = false)
      ↔ (∀ side, side ≠ l.side → (line w t).inside side = false) ∧ True
    constructor
    · intro h
      refine ⟨fun side hside => ?_, trivial⟩
      rw [(Side.ne_iff_eq_other _ _).mp hside]
      exact h rfl
    · intro h _
      exact h.1 _ ((Side.ne_iff_eq_other _ _).mpr rfl)
  · exact iff_of_true (fun h => absurd h hlowers) trivial

theorem warned_iff (w : Warning) (before : ℕ → Bool) (labels : List Label) :
    (∀ pre, pre <+: labels → Warned w (run step (init before) pre)) ↔
      Warned w (init before) ∧ Steps step (Apart w) (init before) labels := by
  have hshort : ∀ t l, ((lines w).emit t l).length ≤ 1 := fun t l => Pc.length_moves w _ _
  rw [(lines w).steps_trace_iff (apart_iff w)]
  exact ((lines w).forall_prefix_trace_iff hshort (P := Exact) _ _).trans (exact_iff _ _)

theorem not_inside_init (w : Warning) (before : ℕ → Bool) :
    ¬ ∃ side, ((init before).thread side).pc.inside w = true := by
  rintro ⟨side, h⟩
  cases w
  · exact Bool.false_ne_true h
  · exact Bool.false_ne_true h

theorem warned_init_iff (before : ℕ → Bool) :
    (∀ w, Warned w (init before)) ↔ before 26 = false := by
  have hlow : ∀ w, Warned w (init before) ↔ (init before).gpio w.pin = false := by
    intro w
    unfold Warned
    rw [iff_false_right (not_inside_init w before), Bool.not_eq_true]
  constructor
  · intro h
    exact (hlow .buzzer).mp (h .buzzer)
  · intro h w
    rw [hlow]
    cases w with
    | lamp => rfl
    | buzzer => exact h

/-- **The shared outputs.** In every state of a run both outputs are high exactly while a
thread is in its section for them, if and only if the buzzer is low in the beginning and no
step lowers an output in the other thread's section for it. -/
theorem outputs_iff (before : ℕ → Bool) (labels : List Label) :
    (∀ pre, pre <+: labels → ∀ w, Warned w (run step (init before) pre)) ↔
      before 26 = false ∧ ∀ w, Steps step (Apart w) (init before) labels := by
  rw [← warned_init_iff before, ← forall_and]
  constructor
  · intro h w
    exact (warned_iff w before labels).mp fun pre hpre => h pre hpre w
  · intro h pre hpre w
    exact (warned_iff w before labels).mpr (h w) pre hpre

/-! ## Two flashes that overlap -/

/-- Nothing is near. -/
def far : Input := ⟨true, ⟨[0], [1]⟩⟩

/-- Something is at 8.5 cm. -/
def near : Input := ⟨true, ⟨[0], [1 / 2000]⟩⟩

/-- Both threads flash for a far echo, the left one a little earlier. -/
def two_flashes : List Label :=
  List.replicate 10 ⟨.left, far⟩ ++ List.replicate 10 ⟨.right, far⟩ ++
    List.replicate 2 ⟨.left, far⟩

/-- The left thread flashes for a near echo, during the flash of the right one. -/
def near_and_far : List Label :=
  List.replicate 10 ⟨.right, far⟩ ++ List.replicate 9 ⟨.left, near⟩ ++
    List.replicate 3 ⟨.right, far⟩

/-- Each output is low although a thread is in its section for it. -/
theorem outputs_low_in_section :
    (run step (init fun _ => false) two_flashes).gpio 17 = false ∧
      ((run step (init fun _ => false) two_flashes).thread .right).pc.inside .lamp = true ∧
      (run step (init fun _ => false) near_and_far).gpio 26 = false ∧
      ((run step (init fun _ => false) near_and_far).thread .left).pc.inside .buzzer = true ∧
      ¬ Warned .lamp (run step (init fun _ => false) two_flashes) ∧
      ¬ Warned .buzzer (run step (init fun _ => false) near_and_far) := by
  have h17 : (run step (init fun _ => false) two_flashes).gpio 17 = false := by decide +kernel
  have hright : ((run step (init fun _ => false) two_flashes).thread .right).pc.inside .lamp
      = true := by
    decide +kernel
  have h26 : (run step (init fun _ => false) near_and_far).gpio 26 = false := by decide +kernel
  have hleft : ((run step (init fun _ => false) near_and_far).thread .left).pc.inside .buzzer
      = true := by
    decide +kernel
  refine ⟨h17, hright, h26, hleft, fun h => ?_, fun h => ?_⟩
  · exact Bool.false_ne_true (h17.symm.trans (h.mpr ⟨.right, hright⟩))
  · exact Bool.false_ne_true (h26.symm.trans (h.mpr ⟨.left, hleft⟩))

end CombinedMode

end SmartBike.Lights
