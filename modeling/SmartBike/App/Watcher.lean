/-
How many pollers are alive while the toggle is on.

A session is meant to have one poller from the click that starts it until that poller
has reported `stolen`. Two things break this: a fetch that ends in an exception while
the toggle is on takes the poller away for good, and a click that turns the toggle on
while an earlier poller has not yet met it off adds one. `Watched` excludes exactly
these two, and `watched_iff` says that nothing less is enough.
-/
import SmartBike.App.FirstActivity

set_option autoImplicit false

open Runs

namespace SmartBike.App

namespace FirstActivity

/-- The number of live pollers. -/
def alive (s : FirstActivity) : ℕ := s.pollers.countP RetrieveRequestCon.alive

/-- A poller of the current session has reported `stolen`. -/
def Reported (s : FirstActivity) : Prop :=
  ∃ p ∈ s.pollers, p.session = s.turned_on ∧ p.pc = .reported

instance (s : FirstActivity) : Decidable s.Reported := inferInstanceAs (Decidable (∃ _ ∈ _, _))

/-- The number of notifications raised in session `k`. -/
def raised (s : FirstActivity) (k : ℕ) : ℕ := s.notifications.countP fun n => n.session = some k

/-- One watcher while the toggle is on and the session has nothing to report yet, and at
most one notification in any session. -/
def OneWatcher (s : FirstActivity) : Prop :=
  (s.isChecked = true → ¬ s.Reported → s.alive = 1) ∧ ∀ k, s.raised k ≤ 1

/-- The step neither ends a poller by an exception while the toggle is on, nor turns the
toggle on while a poller is alive. -/
def Watched (s : FirstActivity) : Label → Prop
  | .click => s.isChecked = false → s.alive = 0
  | .poll i answer =>
    s.isChecked = true → answer = none → ∀ p, s.pollers[i]? = some p → p.pc ≠ .fetch
  | .post _ => True

/-! ## The invariant -/

/-- What watched steps keep. -/
structure WatchInv (s : FirstActivity) : Prop where
  -- sessions are numbered by the clicks
  sessions : ∀ p ∈ s.pollers, p.session ≤ s.turned_on
  -- in a session, the poller is alive or has reported
  watcher : s.isChecked = true → s.Reported ∧ s.alive = 0 ∨ ¬ s.Reported ∧ s.alive = 1
  -- and the live one is the session's own
  own : s.isChecked = true → ∀ p ∈ s.pollers, p.alive = true → p.session = s.turned_on
  -- a session has a notification only after a report, and only one
  silent : ¬ s.Reported → s.raised s.turned_on = 0
  future : ∀ k, s.turned_on < k → s.raised k = 0
  once : ∀ k, s.raised k ≤ 1

theorem WatchInv.oneWatcher {s : FirstActivity} (h : s.WatchInv) : s.OneWatcher := by
  refine ⟨fun hon hnot => ?_, h.once⟩
  rcases h.watcher hon with ⟨hrep, -⟩ | ⟨-, halive⟩
  · exact absurd hrep hnot
  · exact halive

theorem watchInv_init : init.WatchInv := by
  constructor <;> simp [init, alive, raised, Reported]

/-! ## One step of a poller -/

/-- A live poller moves to `pc`; the toggle and the sessions stay. -/
structure Moved (s s' : FirstActivity) (i : ℕ) (p : RetrieveRequestCon) (pc : PollerPc) : Prop where
  found : s.pollers[i]? = some p
  alive : p.alive = true
  pollers : s'.pollers = s.pollers.set i ⟨p.session, pc⟩
  isChecked : s'.isChecked = s.isChecked
  turned_on : s'.turned_on = s.turned_on

/-- A step of a poller that is not alive, or does not exist, does nothing. -/
theorem poll_dead {s : FirstActivity} {i : ℕ} (answer : Option String)
    (h : ∀ p, s.pollers[i]? = some p → p.alive = false) : s.poll i answer = s := by
  unfold poll
  split
  · rfl
  · rename_i p hp
    have hdead := h p hp
    have hset : s.pollers.set i p = s.pollers := by
      obtain ⟨hlt, rfl⟩ := List.getElem?_eq_some_iff.mp hp
      exact List.set_getElem_self hlt
    obtain ⟨session, pc⟩ := p
    cases pc <;> simp_all [RetrieveRequestCon.alive, PollerPc.alive, PollerPc.next]

theorem moved_poll {s : FirstActivity} {i : ℕ} {p : RetrieveRequestCon} (answer : Option String)
    (hp : s.pollers[i]? = some p) (halive : p.alive = true) :
    Moved s (s.poll i answer) i p (p.pc.next s.isChecked answer) := by
  obtain ⟨hchecked, -, hturned, -⟩ := s.poll_frame i answer
  refine ⟨hp, halive, ?_, hchecked, hturned⟩
  simp only [poll, hp]

/-- A notification is raised by a poller that reports, and by no other step. -/
theorem notifications_poll {s : FirstActivity} {i : ℕ} {p : RetrieveRequestCon}
    (answer : Option String) (hp : s.pollers[i]? = some p) (halive : p.alive = true) :
    (s.poll i answer).notifications
      = if p.pc.next s.isChecked answer = .reported then
          s.notifications ++ [⟨"stolen", s.session⟩] else s.notifications := by
  obtain ⟨session, pc⟩ := p
  cases pc with
  | fetch => cases answer <;> simp [poll, hp, PollerPc.next]
  | test con => simp only [poll, hp, PollerPc.next]; split_ifs <;> simp_all
  | sleep => simp [poll, hp, PollerPc.next]
  | react con =>
    by_cases hcon : con = "stolen"
    · simp [poll, hp, PollerPc.next, react, hcon]
    · simp only [poll, hp, PollerPc.next, react, if_neg hcon]
      split_ifs <;> simp_all
  | stopped => simp [RetrieveRequestCon.alive, PollerPc.alive] at halive
  | failed => simp [RetrieveRequestCon.alive, PollerPc.alive] at halive
  | reported => simp [RetrieveRequestCon.alive, PollerPc.alive] at halive

namespace Moved

variable {s s' : FirstActivity} {i : ℕ} {p : RetrieveRequestCon} {pc : PollerPc}

theorem mem (h : Moved s s' i p pc) : p ∈ s.pollers := List.mem_of_getElem? h.found

/-- One poller less is alive, or as many. -/
theorem alive_eq (h : Moved s s' i p pc) :
    s'.alive + 1 = s.alive + if pc.alive = true then 1 else 0 := by
  unfold FirstActivity.alive
  rw [h.pollers]
  exact countP_set RetrieveRequestCon.alive h.found h.alive

/-- The other pollers are as before. -/
theorem mem_iff (h : Moved s s' i p pc) {q : RetrieveRequestCon} (hq : q ∈ s'.pollers) :
    q = ⟨p.session, pc⟩ ∨ q ∈ s.pollers := by
  rw [h.pollers] at hq
  exact (List.mem_or_eq_of_mem_set hq).symm

theorem reported_iff (h : Moved s s' i p pc) :
    s'.Reported ↔ s.Reported ∨ p.session = s.turned_on ∧ pc = .reported := by
  obtain ⟨hlt, hget⟩ := List.getElem?_eq_some_iff.mp h.found
  unfold Reported
  rw [h.turned_on]
  constructor
  · rintro ⟨q, hq, hsession, hpc⟩
    rcases h.mem_iff hq with rfl | hold
    · exact Or.inr ⟨hsession, hpc⟩
    · exact Or.inl ⟨q, hold, hsession, hpc⟩
  · rintro (⟨q, hq, hsession, hpc⟩ | ⟨hsession, rfl⟩)
    · refine ⟨q, ?_, hsession, hpc⟩
      -- a poller that has reported is not the one that moves
      obtain ⟨j, hj, rfl⟩ := List.getElem_of_mem hq
      have hne : i ≠ j := by
        rintro rfl
        have halive := h.alive
        rw [← hget, RetrieveRequestCon.alive, hpc] at halive
        simp [PollerPc.alive] at halive
      rw [h.pollers, List.mem_iff_getElem?]
      exact ⟨j, by rw [List.getElem?_set_ne hne, List.getElem?_eq_getElem hj]⟩
    · refine ⟨⟨p.session, .reported⟩, ?_, hsession, rfl⟩
      rw [h.pollers]
      exact List.mem_set hlt _

end Moved

/-- While the toggle is on, a live poller is the only one, and the session's own. -/
theorem WatchInv.sole {s : FirstActivity} (h : s.WatchInv) (hon : s.isChecked = true)
    {p : RetrieveRequestCon} (hp : p ∈ s.pollers) (halive : p.alive = true) :
    ¬ s.Reported ∧ s.alive = 1 ∧ p.session = s.turned_on := by
  have hpos : 0 < s.alive := List.countP_pos_iff.mpr ⟨p, hp, halive⟩
  rcases h.watcher hon with ⟨-, hnone⟩ | ⟨hnot, hone⟩
  · omega
  · exact ⟨hnot, hone, h.own hon p hp halive⟩

/-- One notification more, in the current session, if the poller reports. -/
theorem raised_moved {s s' : FirstActivity} {pc : PollerPc}
    (h : s'.notifications = if pc = .reported then
      s.notifications ++ [⟨"stolen", s.session⟩] else s.notifications) (k : ℕ) :
    s'.raised k = s.raised k + if pc = .reported ∧ s.session = some k then 1 else 0 := by
  unfold raised
  rw [h]
  by_cases hpc : pc = .reported
  · rw [if_pos hpc, List.countP_append, List.countP_singleton]
    simp only [hpc, true_and, decide_eq_true_eq]
  · rw [if_neg hpc, if_neg fun hand => hpc hand.1]
    rfl

/-- What the step of a live poller preserves, if it ends in an exception only while the
toggle is off. -/
theorem watchInv_moved {s s' : FirstActivity} {i : ℕ} {p : RetrieveRequestCon} {pc : PollerPc}
    (h : s.WatchInv) (hm : Moved s s' i p pc)
    (hends : s.isChecked = true → pc.alive = false → pc = .reported)
    (hraised : s'.notifications = if pc = .reported then
      s.notifications ++ [⟨"stolen", s.session⟩] else s.notifications) : s'.WatchInv := by
  have halive := hm.alive_eq
  have hreported := hm.reported_iff
  have hcount := raised_moved hraised
  refine ⟨?_, ?_, ?_, ?_, ?_, ?_⟩
  · intro q hq
    rw [hm.turned_on]
    rcases hm.mem_iff hq with rfl | hold
    · exact h.sessions p hm.mem
    · exact h.sessions q hold
  · intro hon
    rw [hm.isChecked] at hon
    obtain ⟨hnot, hone, hown⟩ := h.sole hon hm.mem hm.alive
    rw [hreported]
    cases hpc : pc.alive with
    | true =>
      right
      rw [hpc, if_pos rfl] at halive
      refine ⟨?_, by omega⟩
      rintro (hrep | ⟨-, rfl⟩)
      · exact hnot hrep
      · simp [PollerPc.alive] at hpc
    | false =>
      left
      rw [hpc, if_neg (by simp)] at halive
      exact ⟨Or.inr ⟨hown, hends hon hpc⟩, by omega⟩
  · intro hon q hq hqalive
    rw [hm.isChecked] at hon
    rw [hm.turned_on]
    rcases hm.mem_iff hq with rfl | hold
    · exact (h.sole hon hm.mem hm.alive).2.2
    · exact h.own hon q hold hqalive
  · intro hnot
    rw [hreported, not_or] at hnot
    rw [hm.turned_on, hcount, h.silent hnot.1, if_neg]
    rintro ⟨hpc, hk⟩
    obtain ⟨hon, -⟩ := session_eq_some hk
    exact hnot.2 ⟨(h.sole hon hm.mem hm.alive).2.2, hpc⟩
  · intro k hk
    rw [hm.turned_on] at hk
    rw [hcount, h.future k hk, if_neg]
    rintro ⟨-, heq⟩
    have := (session_eq_some heq).2
    omega
  · intro k
    rw [hcount]
    split_ifs with hand
    · obtain ⟨hon, rfl⟩ := session_eq_some hand.2
      rw [h.silent (h.sole hon hm.mem hm.alive).1]
    · exact h.once k

/-! ## Clicks -/

/-- A session starts with its own poller and nothing reported. -/
theorem onClick_on {s : FirstActivity} (h : s.WatchInv) (hoff : s.isChecked = false) :
    s.onClick.isChecked = true ∧ ¬ s.onClick.Reported ∧ s.onClick.alive = s.alive + 1 := by
  rw [onClick_of_off hoff]
  refine ⟨rfl, ?_, ?_⟩
  · rintro ⟨p, hp, hsession, hpc⟩
    rcases List.mem_append.mp hp with hold | hnew
    · have hle := h.sessions p hold
      dsimp only at hsession
      omega
    · rw [List.mem_singleton.mp hnew] at hpc
      simp at hpc
  · unfold alive
    rw [List.countP_append]
    rfl

theorem watchInv_click {s : FirstActivity} (h : s.WatchInv)
    (hw : s.isChecked = false → s.alive = 0) : s.onClick.WatchInv := by
  cases hchecked : s.isChecked with
  | true =>
    rw [onClick_of_on hchecked]
    exact ⟨h.sessions, by simp, by simp, h.silent, h.future, h.once⟩
  | false =>
    obtain ⟨hon, hnot, halive⟩ := onClick_on h hchecked
    have hclick := onClick_of_off hchecked
    have hpollers : s.onClick.pollers = s.pollers ++ [⟨s.turned_on + 1, .fetch⟩] := by rw [hclick]
    have hturned : s.onClick.turned_on = s.turned_on + 1 := by rw [hclick]
    have hraised : ∀ k, s.onClick.raised k = s.raised k := by
      intro k
      rw [hclick]
      rfl
    have hzero := hw hchecked
    refine ⟨?_, fun _ => Or.inr ⟨hnot, by omega⟩, ?_, ?_, ?_, ?_⟩
    · intro p hp
      rw [hpollers, List.mem_append, List.mem_singleton] at hp
      rw [hturned]
      rcases hp with hold | rfl
      · have := h.sessions p hold
        omega
      · exact le_rfl
    · intro _ p hp hpalive
      rw [hpollers, List.mem_append, List.mem_singleton] at hp
      rw [hturned]
      rcases hp with hold | rfl
      · -- no earlier poller is alive
        have hpos : 0 < s.alive := List.countP_pos_iff.mpr ⟨p, hold, hpalive⟩
        omega
      · rfl
    · intro _
      rw [hraised, hturned]
      exact h.future _ (Nat.lt_succ_self _)
    · intro k hk
      rw [hturned] at hk
      rw [hraised]
      exact h.future k (by omega)
    · intro k
      rw [hraised]
      exact h.once k

/-! ## One watcher -/

/-- **What one watched step preserves.** -/
theorem watchInv_step (s : FirstActivity) (l : Label) (h : s.WatchInv) (hw : s.Watched l) :
    (s.step l).WatchInv := by
  cases l with
  | click => exact watchInv_click h hw
  | post i => exact ⟨h.sessions, h.watcher, h.own, h.silent, h.future, h.once⟩
  | poll i answer =>
    change (s.poll i answer).WatchInv
    by_cases hlive : ∃ p, s.pollers[i]? = some p ∧ p.alive = true
    · obtain ⟨p, hp, halive⟩ := hlive
      apply watchInv_moved h (moved_poll answer hp halive) ?_
        (notifications_poll answer hp halive)
      intro hon hends
      have hnot := hw hon
      obtain ⟨session, pc⟩ := p
      cases pc with
      | fetch =>
        cases answer with
        | none => exact absurd rfl (hnot rfl _ hp)
        | some con => simp [PollerPc.next, PollerPc.alive] at hends
      | test con => simp [PollerPc.next, PollerPc.alive, hon] at hends
      | react con =>
        by_cases hcon : con = "stolen"
        · simp [PollerPc.next, hcon]
        · simp [PollerPc.next, PollerPc.alive, hcon] at hends
      | sleep => simp [PollerPc.next, PollerPc.alive] at hends
      | stopped => simp [RetrieveRequestCon.alive, PollerPc.alive] at halive
      | failed => simp [RetrieveRequestCon.alive, PollerPc.alive] at halive
      | reported => simp [RetrieveRequestCon.alive, PollerPc.alive] at halive
    · rw [poll_dead answer]
      · exact h
      · intro p hp
        by_contra hne
        exact hlive ⟨p, hp, by simpa using hne⟩

/-- **A step that is not watched** leaves the session without its one watcher. -/
theorem not_oneWatcher_step (s : FirstActivity) (l : Label) (h : s.WatchInv) (hw : ¬ s.Watched l) :
    ¬ (s.step l).OneWatcher := by
  rintro ⟨hone, -⟩
  cases l with
  | post i => exact hw trivial
  | click =>
    simp only [Watched, Classical.not_imp] at hw
    obtain ⟨hoff, hpos⟩ := hw
    obtain ⟨hon, hnot, halive⟩ := onClick_on h hoff
    have h1 := hone hon hnot
    change s.onClick.alive = 1 at h1
    omega
  | poll i answer =>
    simp only [Watched, Classical.not_imp, not_forall, not_not] at hw
    obtain ⟨hon, rfl, p, hp, hpc⟩ := hw
    have halive : p.alive = true := by rw [RetrieveRequestCon.alive, hpc]; rfl
    have hm := moved_poll none hp halive
    rw [hpc] at hm
    obtain ⟨hnot, hsole, -⟩ := h.sole hon hm.mem halive
    have hnot' : ¬ (s.poll i none).Reported := by
      rw [hm.reported_iff]
      rintro (hrep | ⟨-, hfailed⟩)
      · exact hnot hrep
      · simp [PollerPc.next] at hfailed
    have h1 := hone (hm.isChecked.trans hon) hnot'
    change (s.poll i none).alive = 1 at h1
    have hcount := hm.alive_eq
    simp only [PollerPc.next, PollerPc.alive, Bool.false_eq_true, if_false] at hcount
    omega

/-- **Exactly one watcher.** All the states of a run have one watcher in a session with
nothing to report, and no more than one notification a session, exactly when no fetch
ends in an exception while the toggle is on and the toggle is turned on only while no
poller is alive. -/
theorem watched_iff (labels : List Label) :
    (∀ pre, pre <+: labels → (run step init pre).OneWatcher) ↔ Steps step Watched init labels :=
  forall_prefix_iff_steps watchInv_step (fun _ h => h.oneWatcher) not_oneWatcher_step
    watchInv_init labels

/-- Off and on between two polls: two pollers are alive, and both report in the second
session. -/
def off_and_on : List Label :=
  [.click, .poll 0 (some "safe"), .poll 0 none, .poll 0 none, .click, .click,
    .poll 0 none, .poll 0 (some "stolen"), .poll 1 (some "stolen"),
    .poll 0 none, .poll 0 none, .poll 1 none, .poll 1 none]

/-- The toggle is on, nothing is reported, and two pollers are alive; later the session
has two notifications. -/
theorem two_watchers_after_off_and_on :
    ¬ ∀ pre, pre <+: off_and_on → (run step init pre).OneWatcher := by
  intro h
  have h2 := (h off_and_on List.prefix_rfl).2 2
  revert h2
  decide +kernel

end FirstActivity

end SmartBike.App
