/-
What the two threads of `combined_mode.py` publish.

Every cycle of a thread ends with one of three `con`s on its container, by what the cycle
has read: `"0"` if the switch is not pressed, `"2"` if it is and the distance is below 20,
`"1"` if it is and the distance is not. It is sent unless it was sent last, so a thread is
a sender of changes (`OnChange.Sender`), whose variable is its own. The argument is about
one thread (`Publishing`, `publishing_step`); that the other one does not matter is
`alike_run`.
-/
import SmartBike.Lib.OnChange
import SmartBike.Lights.CombinedMode

set_option autoImplicit false

open Runs OnChange

namespace SmartBike.Lights

namespace Pc

/-- The cycle is classified and its `con` not yet published. -/
def pending : Pc → List Con
  | .buzzer_on => [.warning]
  | .test con => [con]
  | .send con => [con]
  | _ => []

theorem pending_cases (pc : Pc) : pc.pending = [] ∨ ∃ con, pc.pending = [con] := by
  unfold pending
  split
  · exact Or.inr ⟨_, rfl⟩
  · exact Or.inr ⟨_, rfl⟩
  · exact Or.inr ⟨_, rfl⟩
  · exact Or.inl rfl

/-- The next step is a `sendall`. -/
def sends : Pc → Bool
  | .send _ => true
  | _ => false

@[simp] theorem pending_published (con : Con) : (published con).pending = [] := by
  cases con <;> rfl

end Pc

namespace Local

/-- The classification of a cycle, by what it reads. -/
def classify (th : Local) (inp : Input) : List Con :=
  match th.pc with
  | .switch => if inp.pressed then [] else [.off]
  | .measure =>
    match th.measuring.compared inp.echo with
    | none => []
    | some distance => if distance.value < 20 then [.warning] else [.on]
  | _ => []

/-- What was sent last, as the thread knows it. -/
def known (th : Local) : Option Con :=
  match th.pc with
  | .assign con => some con
  | _ => th.t_data

/-- `done` are the cycles of a thread that have been published, of all its cycles that have
been classified, and `sent` is what the publication of these has sent. -/
structure Publishing (th : Local) (sent classified done : List Con) : Prop where
  all : classified = done ++ th.pc.pending
  sender : run Sender.update Sender.init done = ⟨th.known, sent⟩
  -- a value about to be sent is not the one sent last
  changed : ∀ con, th.pc = .send con → th.t_data ≠ some con

theorem publishing_init : Publishing init [] [] [] where
  all := rfl
  sender := rfl
  changed con h := by simp [init] at h

/-- A step that sends nothing, publishes nothing and comes to no `sendall`. -/
theorem Publishing.silent {th th' : Local} {sent classified done new : List Con}
    (h : th.Publishing sent classified done) (hpending : th'.pc.pending = th.pc.pending ++ new)
    (hknown : th'.known = th.known) (hsends : th'.pc.sends = false) :
    th'.Publishing (sent ++ []) (classified ++ new) done where
  all := by rw [h.all, hpending, List.append_assoc]
  sender := by rw [h.sender, hknown, List.append_nil]
  changed con hpc := by
    rw [hpc] at hsends
    exact absurd hsends Bool.true_eq_false.mp

theorem known_published (measuring : Measuring) (t_data : Option Con) (con : Con) :
    known ⟨.published con, measuring, t_data⟩ = t_data := by
  cases con <;> rfl

theorem sends_published (con : Con) : (Pc.published con).sends = false := by
  cases con <;> rfl

/-- **One step of a thread** keeps what it has sent the changes of what it has published. -/
theorem publishing_step {th : Local} {sent classified done : List Con}
    (h : th.Publishing sent classified done) (side : Side) (inp : Input) :
    ∃ done', (th.step side inp).1.Publishing (sent ++ Action.messages (th.step side inp).2)
      (classified ++ th.classify inp) done' := by
  obtain ⟨pc, measuring, t_data⟩ := th
  cases pc with
  | switch =>
    unfold step classify
    dsimp only
    by_cases hpressed : inp.pressed = true
    · rw [if_pos hpressed, if_pos hpressed]
      exact ⟨done, h.silent rfl rfl rfl⟩
    · rw [if_neg hpressed, if_neg hpressed]
      exact ⟨done, h.silent rfl rfl rfl⟩
  | measure =>
    unfold step classify
    dsimp only
    rcases measuring.compared inp.echo with _ | distance
    · exact ⟨done, h.silent rfl rfl rfl⟩
    · dsimp only
      by_cases hnear : distance.value < 20
      · rw [if_pos hnear, if_pos hnear]
        exact ⟨done, h.silent rfl rfl rfl⟩
      · rw [if_neg hnear, if_neg hnear]
        exact ⟨done, h.silent rfl rfl rfl⟩
  | test con =>
    unfold step classify
    dsimp only
    by_cases hlast : t_data = some con
    · -- the last value again: it is published already
      rw [if_pos hlast]
      refine ⟨done ++ [con], ?_, ?_, ?_⟩
      · rw [h.all, Pc.pending_published, List.append_nil, List.append_nil]
        rfl
      · rw [run_concat, h.sender, known_published]
        change Sender.update ⟨t_data, sent⟩ con = ⟨t_data, sent ++ []⟩
        rw [List.append_nil]
        exact if_pos hlast
      · intro con' hpc
        have hsends := (sends_published con).symm.trans (congrArg Pc.sends hpc)
        exact absurd hsends Bool.false_ne_true
    · rw [if_neg hlast]
      refine ⟨done, ?_, ?_, ?_⟩
      · rw [h.all, List.append_nil]
        rfl
      · rw [h.sender]
        exact congrArg (Sender.mk t_data) (List.append_nil sent).symm
      · intro con' hpc
        rw [← Pc.send.inj hpc]
        exact hlast
  | send con =>
    refine ⟨done ++ [con], ?_, ?_, fun con' hpc => ?_⟩
    · rw [h.all]
      rfl
    · rw [run_concat, h.sender]
      exact if_neg (h.changed con rfl)
    · simp [step] at hpc
  | assign con =>
    refine ⟨done, ?_⟩
    exact h.silent (Pc.pending_published con) (known_published _ _ con) (sends_published con)
  | trig_low => exact ⟨done, h.silent rfl rfl rfl⟩
  | trig_high => exact ⟨done, h.silent rfl rfl rfl⟩
  | trig_end => exact ⟨done, h.silent rfl rfl rfl⟩
  | buzzer_on => exact ⟨done, h.silent rfl rfl rfl⟩
  | light_on con => exact ⟨done, h.silent rfl rfl rfl⟩
  | lamp_on con => exact ⟨done, h.silent rfl rfl rfl⟩
  | light_off con => exact ⟨done, h.silent rfl rfl rfl⟩
  | lamp_off con => exact ⟨done, h.silent rfl rfl rfl⟩
  | buzzer_off con => exact ⟨done, h.silent rfl rfl rfl⟩
  | dead => exact ⟨done, h.silent rfl rfl rfl⟩

end Local

namespace CombinedMode

/-- The classifications of the cycles of one side, oldest first. Between two cycles they
are those of its completed cycles. -/
def classified (side : Side) (t : CombinedMode) (labels : List Label) : List Con :=
  emitted step (fun t l => if l.side = side then (t.thread side).classify l.input else []) t labels

/-- The cycles of one side whose `con` is published: all that are classified but for the
current one, while it is still on its way to `sendall`. -/
def published (side : Side) (t : CombinedMode) (labels : List Label) : List Con :=
  if ((run step t labels).thread side).pc.pending = [] then classified side t labels
  else (classified side t labels).dropLast

theorem classified_concat (side : Side) (t : CombinedMode) (labels : List Label) (l : Label) :
    classified side t (labels ++ [l]) = classified side t labels
      ++ if l.side = side then ((run step t labels).thread side).classify l.input else [] :=
  emitted_concat _ t labels l

/-- What a side has sent, in every state of a run. -/
theorem publishing_run (before : ℕ → Bool) (labels : List Label) (side : Side) :
    ∃ done, ((run step (init before) labels).thread side).Publishing
      ((run step (init before) labels).messages side)
      (classified side (init before) labels) done := by
  induction labels using List.reverseRecOn with
  | nil => exact ⟨[], Local.publishing_init⟩
  | append_singleton labels l ih =>
    obtain ⟨done, hdone⟩ := ih
    rw [run_concat, classified_concat]
    by_cases h : l.side = side
    · subst h
      rw [if_pos rfl, thread_step_self, messages_step_self]
      exact Local.publishing_step hdone l.side l.input
    · rw [if_neg h, thread_step_of_ne _ _ (Ne.symm h), messages_step_of_ne _ _ (Ne.symm h),
        List.append_nil]
      exact ⟨done, hdone⟩

theorem messages_eq (before : ℕ → Bool) (labels : List Label) (side : Side) :
    (run step (init before) labels).messages side
      = (published side (init before) labels).destutter (· ≠ ·) := by
  obtain ⟨done, hdone⟩ := publishing_run before labels side
  have hsent := congrArg Sender.sent hdone.sender
  rw [Sender.run_update] at hsent
  have hpublished : published side (init before) labels = done := by
    unfold published
    rw [hdone.all]
    rcases Pc.pending_cases ((run step (init before) labels).thread side).pc with hnil | ⟨con, hcon⟩
    · rw [if_pos hnil, hnil, List.append_nil]
    · rw [hcon, if_neg (List.cons_ne_nil _ _), List.dropLast_concat]
  rw [hpublished]
  exact hsent.symm

/-! ## The other side -/

/-- Two states with the same thread and the same messages on one side. -/
structure Alike (side : Side) (t t' : CombinedMode) : Prop where
  thread : t.thread side = t'.thread side
  messages : t.messages side = t'.messages side

theorem alike_step {side : Side} {t t' : CombinedMode} (h : Alike side t t') {l : Label}
    (hl : l.side = side) : Alike side (t.step l) (t'.step l) := by
  subst hl
  constructor
  · rw [thread_step_self, thread_step_self, h.thread]
  · rw [messages_step_self, messages_step_self, h.thread, h.messages]

theorem alike_step_other {side : Side} {t t' : CombinedMode} (h : Alike side t t') {l : Label}
    (hl : side ≠ l.side) : Alike side (t.step l) t' := by
  constructor
  · rw [thread_step_of_ne t l hl, h.thread]
  · rw [messages_step_of_ne t l hl, h.messages]

/-- The steps of the other side can be left out. -/
theorem alike_run {side : Side} {t t' : CombinedMode} (h : Alike side t t')
    (labels : List Label) :
    Alike side (run step t labels) (run step t' (labels.filter fun l => l.side = side)) := by
  induction labels generalizing t t' with
  | nil => exact h
  | cons l labels ih =>
    by_cases hl : l.side = side
    · rw [List.filter_cons_of_pos (by simpa using hl)]
      exact ih (alike_step h hl)
    · rw [List.filter_cons_of_neg (by simpa using hl)]
      exact ih (alike_step_other h (Ne.symm hl))

theorem messages_filter (side : Side) (t : CombinedMode) (labels : List Label) :
    (run step t labels).messages side
      = (run step t (labels.filter fun l => l.side = side)).messages side :=
  (alike_run ⟨rfl, rfl⟩ labels).messages

/-! ## What is published -/

/-- **The turn lights.** In every state of a run what a side has sent are the changes of
its published classifications; between two cycles, or when the thread has ended, these are
the classifications of its completed cycles, and the last message is the last of them; and
none of it depends on the other side. -/
theorem turn_lights (before : ℕ → Bool) (labels : List Label) (side : Side) :
    (run step (init before) labels).messages side
        = (published side (init before) labels).destutter (· ≠ ·) ∧
      (((run step (init before) labels).thread side).pc = .switch ∨
          ((run step (init before) labels).thread side).pc = .dead →
        (run step (init before) labels).messages side
            = (classified side (init before) labels).destutter (· ≠ ·) ∧
          ((run step (init before) labels).messages side).getLast?
            = (classified side (init before) labels).getLast?) ∧
      ∀ labels' : List Label,
        (labels'.filter fun l => l.side = side) = (labels.filter fun l => l.side = side) →
          (run step (init before) labels').messages side
            = (run step (init before) labels).messages side := by
  refine ⟨messages_eq before labels side, fun hpc => ?_, fun labels' hfilter => ?_⟩
  · have hall : published side (init before) labels = classified side (init before) labels := by
      refine if_pos ?_
      rcases hpc with hpc | hpc
      · rw [hpc]
        rfl
      · rw [hpc]
        rfl
    rw [messages_eq, hall]
    exact ⟨rfl, getLast?_destutter _⟩
  · rw [messages_filter, hfilter, ← messages_filter]

/-- The left switch is pressed for two cycles with something near and then released; the
right thread is in a cycle of its own in between. -/
def near_twice : List Label :=
  List.replicate 14 ⟨.left, ⟨true, ⟨[0], [1 / 2000]⟩⟩⟩ ++
    List.replicate 9 ⟨.right, ⟨true, ⟨[0], [1]⟩⟩⟩ ++
    List.replicate 12 ⟨.left, ⟨true, ⟨[0], [1 / 2000]⟩⟩⟩ ++
    List.replicate 4 ⟨.left, ⟨false, ⟨[], []⟩⟩⟩

/-- Three cycles of the left side, two messages, with and without the right side. -/
theorem turn_lights_near_twice :
    (run step (init fun _ => false) near_twice).messages .left = [.warning, .off] ∧
      (run step (init fun _ => false) near_twice).messages .left
        = (classified .left (init fun _ => false) near_twice).destutter (· ≠ ·) ∧
      (run step (init fun _ => false) (near_twice.filter fun l => l.side = .left)).messages .left
        = (run step (init fun _ => false) near_twice).messages .left := by
  obtain ⟨-, hbetween, hother⟩ := turn_lights (fun _ => false) near_twice .left
  have hpc : ((run step (init fun _ => false) near_twice).thread .left).pc = .switch := by
    decide +kernel
  exact ⟨by decide +kernel, (hbetween (Or.inl hpc)).1, hother _ (by decide +kernel)⟩

end CombinedMode

end SmartBike.Lights
