/-
Which `stolen` an alarm is about.

Neither container says which session an instance belongs to, and a click that turns the
toggle on starts to poll at once. What keeps an old `stolen` from raising an alarm is
that it is nowhere any more: not the latest instance, not on its way to the server, and
not in the hands of a poller (`Clean`). From such a moment on, alarms are about what is
published later (`alarm_fresh`); and where a session begins in any other state, a
continuation in which the Pi does nothing raises the old one (`leftover_alarm`).
-/
import SmartBike.App.Watcher
import SmartBike.System.World

set_option autoImplicit false

open Runs Delivery

namespace SmartBike.System

open App Parking

/-- The poller holds a `stolen` it has fetched. -/
def Holds (p : RetrieveRequestCon) : Prop := p.pc = .test "stolen" ∨ p.pc = .react "stolen"

instance (p : RetrieveRequestCon) : Decidable (Holds p) := inferInstanceAs (Decidable (_ ∨ _))

/-- The pollers that have met `stolen` and ended. -/
def reports (s : FirstActivity) : ℕ := s.pollers.countP fun p => p.pc = .reported

namespace World

variable {D : Type*} [Field D] [LinearOrder D]

/-- No `stolen` is the latest instance, on its way to the server, or with a poller. -/
structure Clean (w : World D) : Prop where
  latest : w.latest ≠ some .stolen
  pending : .stolen ∉ w.states.pending
  pollers : ∀ p ∈ w.app.pollers, ¬ Holds p

/-- Between two moments `NotificationSomethings` was called, or a poller ended on
`stolen`. -/
def AlarmSince (w w' : World D) : Prop :=
  w.app.notifications.length < w'.app.notifications.length ∨ reports w.app < reports w'.app

/-- Between two moments `parking_thread` has published `stolen`. -/
def StolenSince (w w' : World D) : Prop :=
  .parking_state .stolen ∈ w'.pi.shared.sent.drop w.pi.shared.sent.length

/-! ## Without a new `stolen` -/

theorem state_con_eq_stolen {con : ParkingState} : state_con con = "stolen" ↔ con = .stolen := by
  cases con <;> simp [state_con]

omit [Field D] [LinearOrder D] in
/-- A fetch in a clean state. -/
theorem Clean.answer_ne {w : World D} (h : w.Clean) (fails : Bool) :
    w.answer fails ≠ some "stolen" := by
  unfold answer
  split_ifs
  · simp
  · intro heq
    obtain ⟨con, hcon, hstolen⟩ := Option.map_eq_some_iff.mp heq
    rw [state_con_eq_stolen] at hstolen
    rw [hstolen] at hcon
    exact h.latest hcon

/-- A poller that does not hold `stolen` and does not fetch it does not report, and does
not come to hold it. -/
theorem next_quiet {pc : PollerPc} (hpc : pc ≠ .test "stolen" ∧ pc ≠ .react "stolen")
    (halive : pc.alive = true) (isChecked : Bool) {answer : Option String}
    (hanswer : answer ≠ some "stolen") :
    pc.next isChecked answer ≠ .test "stolen" ∧ pc.next isChecked answer ≠ .react "stolen" ∧
      pc.next isChecked answer ≠ .reported := by
  cases pc with
  | fetch => cases answer <;> simp_all [PollerPc.next]
  | test con => cases isChecked <;> simp_all [PollerPc.next]
  | react con => simp_all [PollerPc.next]
  | sleep => simp [PollerPc.next]
  | stopped => simp [PollerPc.alive] at halive
  | failed => simp [PollerPc.alive] at halive
  | reported => simp [PollerPc.alive] at halive

/-- One step of a poller when nobody holds `stolen`. -/
theorem poll_quiet {s : FirstActivity} (hs : ∀ p ∈ s.pollers, ¬ Holds p) (i : ℕ)
    {answer : Option String} (hanswer : answer ≠ some "stolen") :
    (∀ p ∈ (s.poll i answer).pollers, ¬ Holds p) ∧
      (s.poll i answer).notifications = s.notifications ∧
      reports (s.poll i answer) = reports s := by
  by_cases hdead : ∀ p, s.pollers[i]? = some p → p.alive = false
  · rw [FirstActivity.poll_dead answer hdead]
    exact ⟨hs, rfl, rfl⟩
  · push Not at hdead
    obtain ⟨p, hp, halive⟩ := hdead
    rw [ne_eq, Bool.not_eq_false] at halive
    have hmoved := FirstActivity.moved_poll answer hp halive
    have hpc := hs p hmoved.mem
    unfold Holds at hpc
    rw [not_or] at hpc
    obtain ⟨htest, hreact, hreported⟩ := next_quiet hpc halive s.isChecked hanswer
    refine ⟨?_, ?_, ?_⟩
    · intro q hq
      rcases hmoved.mem_iff hq with rfl | hold
      · rintro (h | h)
        · exact htest h
        · exact hreact h
      · exact hs q hold
    · rw [FirstActivity.notifications_poll answer hp halive, if_neg hreported]
    · obtain ⟨hlt, hget⟩ := List.getElem?_eq_some_iff.mp hp
      have hnot : ¬ p.pc = .reported := by
        intro h
        rw [RetrieveRequestCon.alive, h] at halive
        simp [PollerPc.alive] at halive
      unfold reports
      rw [hmoved.pollers, List.countP_set hlt, hget]
      simp [hnot, hreported]

theorem onClick_quiet {s : FirstActivity} (hs : ∀ p ∈ s.pollers, ¬ Holds p) :
    (∀ p ∈ s.onClick.pollers, ¬ Holds p) ∧ s.onClick.notifications = s.notifications ∧
      reports s.onClick = reports s := by
  unfold FirstActivity.onClick
  split_ifs
  · exact ⟨hs, rfl, rfl⟩
  · refine ⟨?_, rfl, ?_⟩
    · intro p hp
      rcases List.mem_append.mp hp with hp | hp
      · exact hs p hp
      · rw [List.mem_singleton.mp hp]
        simp [Holds]
    · simp [reports]

section Step

variable [IsStrictOrderedRing D] (P : Power D)

/-- The container after one step without a new `stolen`. -/
theorem clean_states_step {w : World D} (h : w.Clean) {l : Label}
    (hnew : ¬ StolenSince w (w.step P l)) :
    (w.step P l).latest ≠ some .stolen ∧ .stolen ∉ (w.step P l).states.pending := by
  unfold latest
  rcases states_step P w l with ⟨l', hstates, hpi⟩ | ⟨-, hstates | ⟨i, -, hstates⟩⟩
  · -- a step of the Pi
    obtain ⟨hpending, harrived⟩ := Net.run_map_issue w.states (w.published P l')
    rw [hstates, hpending, harrived]
    refine ⟨h.latest, ?_⟩
    intro hmem
    rcases List.mem_append.mp hmem with hold | hpub
    · exact h.pending hold
    · apply hnew
      unfold StolenSince
      rw [hpi]
      unfold published Message.states at hpub
      obtain ⟨m, hm, hcon⟩ := List.mem_filterMap.mp hpub
      cases m with
      | parking_state con =>
        rw [Option.some.injEq] at hcon
        rwa [hcon] at hm
      | parking_location m => simp at hcon
  · rw [hstates]
    exact ⟨h.latest, h.pending⟩
  · -- an instance is created
    rw [hstates]
    rcases hi : w.states.pending[i]? with _ | con
    · rw [Net.arrive_of_none hi]
      exact ⟨h.latest, h.pending⟩
    · rw [Net.arrive_of_some hi]
      have hcon : con ≠ .stolen := by
        rintro rfl
        exact h.pending (List.mem_of_getElem? hi)
      refine ⟨by simpa using hcon, ?_⟩
      intro hmem
      exact h.pending (List.mem_of_mem_eraseIdx hmem)

/-- The app after one step from a clean state. -/
theorem quiet_app_step {w : World D} (h : w.Clean) (l : Label) :
    (∀ p ∈ (w.step P l).app.pollers, ¬ Holds p) ∧
      (w.step P l).app.notifications = w.app.notifications ∧
      reports (w.step P l).app = reports w.app := by
  have habs := (app_runs P).abs_step w l
  change (w.step P l).app = run FirstActivity.step w.app (w.app_labels l) at habs
  rw [habs]
  unfold app_labels
  cases l with
  | click => exact onClick_quiet h.pollers
  | post i => exact ⟨h.pollers, rfl, rfl⟩
  | poll i fails => exact poll_quiet h.pollers i (h.answer_ne fails)
  | mode_check | reply | beacon_finder | beacon_condition | create =>
    exact ⟨h.pollers, rfl, rfl⟩

/-- **One step without a new `stolen`** keeps the state clean, and nothing is raised. -/
theorem clean_step {w : World D} (h : w.Clean) {l : Label}
    (hnew : ¬ StolenSince w (w.step P l)) :
    (w.step P l).Clean ∧ (w.step P l).app.notifications = w.app.notifications ∧
      reports (w.step P l).app = reports w.app := by
  obtain ⟨hlatest, hpending⟩ := clean_states_step P h hnew
  obtain ⟨hpollers, hquiet⟩ := quiet_app_step P h l
  exact ⟨⟨hlatest, hpending, hpollers⟩, hquiet⟩

omit [Field D] [LinearOrder D] [IsStrictOrderedRing D] in
/-- What was published since a moment was published since every earlier one. -/
theorem StolenSince.of_later {w w' w'' : World D} (h : StolenSince w' w'')
    (hgrown : w.pi.shared.sent <+: w'.pi.shared.sent) : StolenSince w w'' := by
  obtain ⟨n, hn⟩ := Nat.exists_eq_add_of_le hgrown.length_le
  unfold StolenSince at h ⊢
  rw [hn, ← List.drop_drop] at h
  exact List.mem_of_mem_drop h

omit [Field D] [LinearOrder D] [IsStrictOrderedRing D] in
/-- And it is still so later. -/
theorem StolenSince.mono {w w' w'' : World D} (h : StolenSince w w')
    (hgrown : w'.pi.shared.sent <+: w''.pi.shared.sent) : StolenSince w w'' := by
  obtain ⟨more, hmore⟩ := hgrown
  unfold StolenSince at h ⊢
  rw [← hmore, List.drop_append]
  exact List.mem_append_left _ h

/-- As long as no `stolen` is published, the state stays clean and nothing is raised. -/
structure Undisturbed (w w' : World D) : Prop where
  grown : w.pi.shared.sent <+: w'.pi.shared.sent
  quiet : ¬ StolenSince w w' → w'.Clean ∧ w'.app.notifications = w.app.notifications ∧
    reports w'.app = reports w.app

theorem undisturbed_step {w w' : World D} (h : Undisturbed w w') (l : Label) :
    Undisturbed w (w'.step P l) := by
  have hgrown := sent_grows P w' l
  refine ⟨h.grown.trans hgrown, ?_⟩
  intro hnot
  obtain ⟨hclean, hnotifications, hreports⟩ :=
    h.quiet fun hstolen => hnot (hstolen.mono hgrown)
  obtain ⟨hclean', hnotifications', hreports'⟩ :=
    clean_step P hclean fun hstolen => hnot (hstolen.of_later h.grown)
  exact ⟨hclean', hnotifications'.trans hnotifications, hreports'.trans hreports⟩

/-- **Alarms after a clean moment** are about what was published after it. -/
theorem alarm_fresh {w : World D} (h : w.Clean) (labels : List Label)
    (halarm : AlarmSince w (run (step P) w labels)) : StolenSince w (run (step P) w labels) := by
  have h0 : Undisturbed w w := ⟨List.prefix_rfl, fun _ => ⟨h, rfl, rfl⟩⟩
  have hstep : ∀ (w' : World D) (l : Label), Undisturbed w w' → Undisturbed w (w'.step P l) :=
    fun _ l hw' => undisturbed_step P hw' l
  have hrun : Undisturbed w (run (step P) w labels) := invariant hstep h0 labels
  by_contra hnot
  obtain ⟨-, hnotifications, hreports⟩ := hrun.quiet hnot
  rcases halarm with hlt | hlt
  · rw [hnotifications] at hlt
    omega
  · rw [hreports] at hlt
    omega

/-! ## A leftover `stolen` -/

/-- The system may go on to raise an alarm in the current session, with the Pi doing
nothing. -/
def Raises (w : World D) : Prop :=
  ∃ labels, (run (step P) w labels).app.notifications
      = w.app.notifications ++ [⟨"stolen", some w.app.turned_on⟩] ∧
    (run (step P) w labels).pi = w.pi

theorem Raises.of_step {w : World D} {l : Label} (h : (w.step P l).Raises P)
    (hnotifications : (w.step P l).app.notifications = w.app.notifications)
    (hturned : (w.step P l).app.turned_on = w.app.turned_on) (hpi : (w.step P l).pi = w.pi) :
    w.Raises P := by
  obtain ⟨labels, hraised, hsame⟩ := h
  rw [hnotifications, hturned] at hraised
  exact ⟨l :: labels, hraised, hsame.trans hpi⟩

/-- A poller that is about to react. -/
theorem raises_react {w : World D} (hon : w.app.isChecked = true) {i : ℕ}
    {p : RetrieveRequestCon} (hp : w.app.pollers[i]? = some p) (hpc : p.pc = .react "stolen") :
    w.Raises P := by
  have halive : p.alive = true := by rw [RetrieveRequestCon.alive, hpc]; rfl
  have hnext : p.pc.next w.app.isChecked (w.answer false) = .reported := by rw [hpc]; rfl
  have hnotifications := FirstActivity.notifications_poll (w.answer false) hp halive
  rw [if_pos hnext, FirstActivity.session, if_pos hon] at hnotifications
  exact ⟨[.poll i false], hnotifications, rfl⟩

/-- A step of a poller that does not report. -/
theorem raises_of_poll {w : World D} {i : ℕ} {p : RetrieveRequestCon}
    (hp : w.app.pollers[i]? = some p) (halive : p.alive = true) {pc : PollerPc}
    (hnext : p.pc.next w.app.isChecked (w.answer false) = pc) (hpc : pc ≠ .reported)
    (h : (w.step P (.poll i false)).app.pollers[i]? = some ⟨p.session, pc⟩ →
      (w.step P (.poll i false)).app.isChecked = w.app.isChecked →
      (w.step P (.poll i false)).Raises P) : w.Raises P := by
  have hmoved := FirstActivity.moved_poll (w.answer false) hp halive
  have hnotifications := FirstActivity.notifications_poll (w.answer false) hp halive
  rw [hnext] at hmoved hnotifications
  rw [if_neg hpc] at hnotifications
  obtain ⟨hlt, -⟩ := List.getElem?_eq_some_iff.mp hp
  have hset : (w.step P (.poll i false)).app.pollers[i]? = some ⟨p.session, pc⟩ := by
    change (w.app.poll i (w.answer false)).pollers[i]? = _
    rw [hmoved.pollers, List.getElem?_set_self hlt]
  exact (h hset hmoved.isChecked).of_step P hnotifications hmoved.turned_on rfl

/-- A poller that holds `stolen`. -/
theorem raises_holds {w : World D} (hon : w.app.isChecked = true) {i : ℕ}
    {p : RetrieveRequestCon} (hp : w.app.pollers[i]? = some p) (hholds : Holds p) :
    w.Raises P := by
  rcases hholds with htest | hreact
  · have halive : p.alive = true := by rw [RetrieveRequestCon.alive, htest]; rfl
    have hnext : p.pc.next w.app.isChecked (w.answer false) = .react "stolen" := by
      rw [htest, hon]
      rfl
    refine raises_of_poll P hp halive hnext (by simp) ?_
    intro hp' hon'
    exact raises_react P (hon'.trans hon) hp' rfl
  · exact raises_react P hon hp hreact

/-- A poller that is about to fetch the latest instance. -/
theorem raises_fetch {w : World D} (hon : w.app.isChecked = true) {i : ℕ}
    {p : RetrieveRequestCon} (hp : w.app.pollers[i]? = some p) (hpc : p.pc = .fetch)
    (hlatest : w.latest = some .stolen) : w.Raises P := by
  have halive : p.alive = true := by rw [RetrieveRequestCon.alive, hpc]; rfl
  have hnext : p.pc.next w.app.isChecked (w.answer false) = .test "stolen" := by
    rw [hpc, answer, hlatest]
    rfl
  refine raises_of_poll P hp halive hnext (by simp) ?_
  intro hp' hon'
  exact raises_holds P (hon'.trans hon) hp' (Or.inl rfl)

/-- **A session that begins before the old `stolen` is gone**: the click starts a poller
that may meet it, or meets one that has it already. -/
theorem leftover_alarm {w : World D} (hoff : w.app.isChecked = false) (h : ¬ w.Clean) :
    (w.step P .click).Raises P := by
  have hclick : (w.step P .click).app = _ := FirstActivity.onClick_of_off hoff
  have hon : (w.step P .click).app.isChecked = true := by rw [hclick]
  have hnew : (w.step P .click).app.pollers[w.app.pollers.length]?
      = some ⟨w.app.turned_on + 1, .fetch⟩ := by
    rw [hclick]
    simp
  by_cases hlatest : w.latest = some .stolen
  · exact raises_fetch P hon hnew rfl hlatest
  by_cases hpending : .stolen ∈ w.states.pending
  · -- the message arrives first
    obtain ⟨i, hi⟩ := List.mem_iff_getElem?.mp hpending
    have hcreate : ((w.step P .click).step P (.create i)).latest = some .stolen := by
      change (w.states.arrive i).arrived.getLast? = _
      rw [Net.arrive_of_some hi]
      simp
    have hraises : ((w.step P .click).step P (.create i)).Raises P :=
      raises_fetch P hon hnew rfl hcreate
    exact hraises.of_step P rfl rfl rfl
  · -- a poller of an earlier session holds it
    have hholds : ∃ p ∈ w.app.pollers, Holds p := by
      by_contra hnot
      apply h
      refine ⟨hlatest, hpending, ?_⟩
      intro p hp hholds
      exact hnot ⟨p, hp, hholds⟩
    obtain ⟨p, hp, hholds⟩ := hholds
    obtain ⟨i, hi⟩ := List.mem_iff_getElem?.mp hp
    obtain ⟨hlt, -⟩ := List.getElem?_eq_some_iff.mp hi
    have hold : (w.step P .click).app.pollers[i]? = some p := by
      rw [hclick]
      exact (List.getElem?_append_left hlt).trans hi
    exact raises_holds P hon hold hholds

/-- **Fresh alarms.** From a moment on at which no `stolen` is the latest instance, on its
way or with a poller, every alarm is about a `stolen` published after that moment. At a
click that turns the toggle on, no less is enough: the system may go on to raise an
alarm in the session that begins, with the Pi doing nothing. -/
theorem fresh_alarms (w : World D) :
    (w.Clean → ∀ labels, AlarmSince w (run (step P) w labels) →
      StolenSince w (run (step P) w labels)) ∧
    (w.app.isChecked = false → ¬ w.Clean → ∃ labels,
      (run (step P) w (.click :: labels)).app.notifications
          = w.app.notifications ++ [⟨"stolen", some (w.app.turned_on + 1)⟩] ∧
        (run (step P) w (.click :: labels)).pi = w.pi) := by
  refine ⟨fun h labels halarm => alarm_fresh P h labels halarm, ?_⟩
  intro hoff h
  obtain ⟨labels, hraised, hpi⟩ := leftover_alarm P hoff h
  refine ⟨labels, ?_, hpi⟩
  rw [run_cons, hraised]
  change w.app.onClick.notifications ++ [⟨_, some w.app.onClick.turned_on⟩] = _
  simp [FirstActivity.onClick, hoff]

end Step

/-! ## Two sessions -/

omit [LinearOrder D] in
theorem clean_init : (init : World D).Clean := by
  refine ⟨?_, List.not_mem_nil, ?_⟩
  · intro h
    exact absurd h (Option.some_ne_none _).symm
  · intro p hp
    exact absurd hp List.not_mem_nil

section Sessions

private def ten_far : List Beacon := List.replicate 10 ⟨39, -59, -79⟩

/-- A session in which the bicycle is taken away after the first round; the app reports
it and is turned off. -/
def first_session : List Label :=
  [.click, .post 0, .mode_check 0, .beacon_finder [], .beacon_finder Threads.ten_near] ++
    List.replicate 63 (.beacon_finder ten_far) ++
    [.create 0, .create 0, .poll 0 false, .poll 0 false, .poll 0 false, .click]

/-- Every alarm of a run is about a `stolen` published in it, but a second session can
have an alarm with the Pi doing nothing. -/
theorem fresh_alarms_first_session :
    (∀ labels, AlarmSince (init : World ℚ) (run (step Power.floor) init labels) →
      StolenSince (init : World ℚ) (run (step Power.floor) init labels)) ∧
    ∃ labels, (run (step Power.floor) (run (step Power.floor) (init : World ℚ) first_session)
      (.click :: labels)).app.notifications = [⟨"stolen", some 1⟩, ⟨"stolen", some 2⟩] := by
  refine ⟨(fresh_alarms Power.floor init).1 clean_init, ?_⟩
  have hdirty : ¬ (run (step Power.floor) (init : World ℚ) first_session).Clean := by
    intro h
    have hlatest := h.latest
    revert hlatest
    decide +kernel
  obtain ⟨labels, hraised, -⟩ :=
    (fresh_alarms Power.floor (run (step Power.floor) (init : World ℚ) first_session)).2
      (by decide +kernel) hdirty
  refine ⟨labels, ?_⟩
  rw [hraised]
  decide +kernel

/-- Not so in every run: the `stolen` of the first session raises an alarm in the second
one, which no `stolen` has been published since. -/
theorem leftover_notified :
    ¬ ∀ pre post : List Label,
      (run (step Power.floor) (init : World ℚ) pre).app.isChecked = false →
      ⟨"stolen", some ((run (step Power.floor) (init : World ℚ) pre).app.turned_on + 1)⟩ ∈
        (run (step Power.floor) (init : World ℚ) (pre ++ .click :: post)).app.notifications →
      StolenSince (run (step Power.floor) (init : World ℚ) pre)
        (run (step Power.floor) init (pre ++ .click :: post)) := by
  intro h
  have hstolen := h first_session [.poll 1 false, .poll 1 false, .poll 1 false]
    (by decide +kernel) (by decide +kernel)
  revert hstolen
  unfold StolenSince
  decide +kernel

end Sessions

end World

end SmartBike.System
