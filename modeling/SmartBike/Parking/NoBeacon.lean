/-
`nobeacon` against the advertisements that were accepted.

`BeaconCondition` polls every three seconds. It does not count advertisements: it
compares the RSSI accepted last with the one it saved after the poll before, and takes
three equal comparisons in a row for silence. Beside the program runs a record of what
was accepted in every poll interval of its current session (`Polls`), and the two
directions of the verdict are two invariants.

Enough silence always brings `count` to three (`Complete`). The converse (`Sound`) needs
that an equal comparison means a silent interval, which a repeated RSSI breaks, and that
a session does not begin with the `count` of an earlier one (`Telling`).
-/
import SmartBike.Parking.Threads

set_option autoImplicit false

open Runs CheckSend

namespace SmartBike.Parking

/-! ## The record -/

/-- What was accepted around the polls of `BeaconCondition`. Its session is the run of
passes since a test of `info` on line 74 that has read `1` after one that has not; an
interval ends with the comparison on line 77. -/
structure Polls where
  running : Bool
  -- accepted since the comparison before, or since the session has begun
  interval : List Beacon
  -- the complete intervals of the session, latest first
  polls : List (List Beacon)
  -- the state the thread has assigned to `transferred_info` last
  recorded : Option ParkingState
  -- the finder has assigned `transferred_info` since the last comparison
  others : Bool
  deriving DecidableEq, Repr

namespace Polls

def init : Polls := ⟨false, [], [], none, false⟩

end Polls

/-- The number of latest intervals in which nothing was accepted. -/
def silence : List (List Beacon) → ℕ
  | [] => 0
  | interval :: polls => if interval = [] then silence polls + 1 else 0

theorem three_le_silence {polls : List (List Beacon)} (h : 3 ≤ silence polls) :
    ∃ rest, polls = [] :: [] :: [] :: rest := by
  match polls with
  | [] => simp [silence] at h
  | [a] =>
    simp only [silence] at h
    split_ifs at h <;> omega
  | [a, b] =>
    simp only [silence] at h
    split_ifs at h <;> omega
  | a :: b :: c :: rest =>
    simp only [silence] at h
    split_ifs at h with ha hb hc
    · exact ⟨rest, by rw [ha, hb, hc]⟩
    · omega
    · omega
    · omega

namespace Writer

/-- The state that the next access assigns to `transferred_info`. -/
def assigning (w : Writer) : Option ParkingState :=
  match w.phase with
  | .sent con => some con
  | _ => none

theorem Done.assigning_eq {w : Writer} (h : w.Done) : w.assigning = none := by
  unfold assigning
  rw [h.1]

/-- `transferred_info` after an access is what was assigned, if anything was. -/
theorem transferred_info_eq (w : Writer) (sh : Shared) :
    (w.step sh).2.transferred_info = w.assigning.or sh.transferred_info := by
  obtain ⟨phase, todo⟩ := w
  cases phase with
  | checked con => rfl
  | sent con => rfl
  | idle =>
    rcases todo with _ | ⟨act, rest⟩
    · rfl
    · cases act with
      | location m => rfl
      | output high => rfl
      | publish con => simp only [step]; split_ifs <;> rfl

/-- A status that an access writes on `s_1` is one the publication writes. -/
theorem writes_of_sent {w : Writer} {sh : Shared} {con : ParkingState}
    (h : (w.step sh).2.sent = sh.sent ++ [.parking_state con]) : w.Writes con := by
  obtain ⟨phase, todo⟩ := w
  cases phase with
  | checked c =>
    obtain rfl : c = con := by simpa [step] using h
    exact Or.inl rfl
  | sent c => simp [step] at h
  | idle =>
    rcases todo with _ | ⟨act, rest⟩
    · simp [step] at h
    · cases act with
      | location m => simp [step] at h
      | output high => simp [step] at h
      | publish c =>
        simp only [step] at h
        split_ifs at h <;> simp at h

end Writer

namespace Threads

variable {D : Type*} [Field D] [LinearOrder D]

/-- The record after a step. -/
def observe (t : Threads D) (w : Polls) : Label → Polls
  | .mode_check _ => w
  | .beacon_finder _ =>
    let w := { w with others := w.others || (t.writer .beacon_finder).assigning.isSome }
    match t.finder_pc with
    | .listening _ (bea :: _) =>
      if bea.Accepted then { w with interval := w.interval ++ [bea] } else w
    | _ => w
  | .beacon_condition =>
    let w := { w with recorded := (t.writer .beacon_condition).assigning.or w.recorded }
    match t.condition_pc with
    | .outer =>
      if t.shared.info = some 1 then
        if w.running then w else { w with running := true, interval := [], polls := [] }
      else { w with running := false, interval := [], polls := [] }
    | .polled => { w with interval := [], polls := w.interval :: w.polls, others := false }
    | _ => w

section Watch

variable [IsStrictOrderedRing D] (P : Power D)

/-- A step of the program, with the record. -/
def watch (s : Threads D × Polls) (l : Label) : Threads D × Polls :=
  (s.1.step P l, s.1.observe s.2 l)

def watched : Threads D × Polls := (init, .init)

theorem watch_fst (labels : List Label) (s : Threads D × Polls) :
    (run (watch P) s labels).1 = run (step P) s.1 labels := by
  induction labels generalizing s with
  | nil => rfl
  | cons l labels ih => rw [run_cons, ih, run_cons, watch]

/-- A poll that finds the RSSI unchanged comes after an interval in which nothing was
accepted; and if it is the first of its session, the counter is at zero. -/
def Telling (s : Threads D × Polls) (l : Label) : Prop :=
  l = .beacon_condition → s.1.condition_pc = .polled → s.1.shared.stop_check = s.1.l_check →
    s.2.interval = [] ∧ (s.2.polls = [] → s.1.count = 0)

instance (s : Threads D × Polls) (l : Label) : Decidable (Telling s l) :=
  inferInstanceAs (Decidable (_ → _ → _ → _))

/-! ## What the finder changes -/

/-- A step of the finder, for the other thread: an advertisement is recorded or
`stop_check` stays, and an assignment to `transferred_info` is recorded or it stays. -/
structure FinderFrame (t t' : Threads D) (w w' : Polls) : Prop where
  condition_pc : t'.condition_pc = t.condition_pc
  l_check : t'.l_check = t.l_check
  count : t'.count = t.count
  running : w'.running = w.running
  polls : w'.polls = w.polls
  recorded : w'.recorded = w.recorded
  heard : w'.interval ≠ [] ∨
    w'.interval = w.interval ∧ t'.shared.stop_check = t.shared.stop_check
  assigned : w'.others = true ∨
    w'.others = w.others ∧ t'.shared.transferred_info = t.shared.transferred_info

theorem finderFrame (t : Threads D) (w : Polls) (returnList : List Beacon) :
    FinderFrame t (t.beacon_finder P returnList) w (t.observe w (.beacon_finder returnList)) := by
  unfold beacon_finder observe writer
  cases hpc : t.finder_pc with
  | outer => dsimp only; split_ifs <;> constructor <;> simp [Writer.start, Writer.assigning]
  | sampling s => constructor <;> simp [Writer.start, Writer.assigning]
  | listening s rest =>
    cases rest with
    | nil => constructor <;> simp [Writer.start, Writer.assigning]
    | cons bea rest =>
      dsimp only
      by_cases hbea : bea.Accepted
      · rw [if_pos hbea, if_pos hbea]
        constructor <;> simp [Writer.start, Writer.assigning]
      · rw [if_neg hbea, if_neg hbea]
        constructor <;> simp [Writer.start, Writer.assigning]
  | post s => dsimp only; split_ifs <;> constructor <;> simp [Writer.start, Writer.assigning]
  | acting v =>
    dsimp only
    split_ifs with hdone
    · constructor <;> simp [hdone.1, Writer.assigning]
    · have htransferred := v.transferred_info_eq t.shared
      cases hassigning : v.assigning with
      | none =>
        rw [hassigning, Option.none_or] at htransferred
        constructor <;> simp [(v.step_frame t.shared).2, htransferred]
      | some con => constructor <;> simp [(v.step_frame t.shared).2]

/-! ## Who publishes `nobeacon` -/

/-- `nobeacon` is written on `s_1` by `BeaconCondition`, inside a publication. -/
theorem writes_nobeacon {t : Threads D} (ht : t.Owned) {l : Label}
    (h : (t.step P l).shared.sent = t.shared.sent ++ [.parking_state .nobeacon]) :
    l = .beacon_condition ∧ (t.writer .beacon_condition).Writes .nobeacon := by
  -- the thread that steps writes the status, so it is its own
  have hwrites : ∀ i, Effect i t (t.step P l) → (t.writer i).Writes .nobeacon := by
    intro i heff
    rcases heff.access with ⟨-, -, hsent, -⟩ | ⟨hsh, -⟩
    · rw [hsent] at h
      simp at h
    · rw [hsh] at h
      exact Writer.writes_of_sent h
  cases l with
  | mode_check info => simp [step, mode_check] at h
  | beacon_condition => exact ⟨rfl, hwrites _ (beacon_condition_effect t)⟩
  | beacon_finder returnList =>
    have hown := ht _ _ (hwrites _ (beacon_finder_effect P t returnList))
    simp [ParkingState.owner] at hown

/-! ## Soundness -/

/-- What telling polls keep. -/
structure Sound (s : Threads D × Polls) : Prop where
  -- the counter counts silent intervals of this session
  silent : s.2.polls ≠ [] → s.1.count ≤ silence s.2.polls
  publishing : ∀ w, s.1.condition_pc = .nobeacon w → 3 ≤ s.1.count ∧ s.2.polls ≠ []
  deactivating : ∀ w con, s.1.condition_pc = .deactivate w → w.Writes con → con = .deactivate

omit [Field D] [LinearOrder D] [IsStrictOrderedRing D] in
/-- An equal comparison counts one more silent interval, another one none. -/
theorem poll_le_silence {t : Threads D} {w : Polls} (h : w.polls ≠ [] → t.count ≤ silence w.polls)
    (htelling : t.shared.stop_check = t.l_check →
      w.interval = [] ∧ (w.polls = [] → t.count = 0)) :
    t.poll ≤ silence (w.interval :: w.polls) := by
  unfold poll
  split_ifs with heq
  · obtain ⟨hinterval, hfirst⟩ := htelling heq
    rw [hinterval, silence, if_pos rfl]
    by_cases hpolls : w.polls = []
    · rw [hfirst hpolls]
      omega
    · exact Nat.succ_le_succ (h hpolls)
  · exact Nat.zero_le _

theorem sound_step (s : Threads D × Polls) (l : Label) (h : Sound s) (hl : Telling s l) :
    Sound (watch P s l) := by
  obtain ⟨t, w⟩ := s
  cases l with
  | mode_check info => exact ⟨h.silent, h.publishing, h.deactivating⟩
  | beacon_finder returnList =>
    have hframe := finderFrame P t w returnList
    change Sound (t.beacon_finder P returnList, t.observe w (.beacon_finder returnList))
    constructor
    · dsimp only
      rw [hframe.polls, hframe.count]
      exact h.silent
    · dsimp only
      rw [hframe.polls, hframe.count, hframe.condition_pc]
      exact h.publishing
    · dsimp only
      rw [hframe.condition_pc]
      exact h.deactivating
  | beacon_condition =>
    change Sound (t.beacon_condition, t.observe w .beacon_condition)
    unfold beacon_condition observe
    cases hpc : t.condition_pc with
    | start => exact ⟨h.silent, by simp, by simp⟩
    | save => exact ⟨h.silent, by simp, by simp⟩
    | outer =>
      dsimp only
      by_cases hinfo : t.shared.info = some 1
      · rw [if_pos hinfo, if_pos hinfo]
        refine ⟨?_, by simp, by simp⟩
        split_ifs
        · exact h.silent
        · exact fun hne => absurd rfl hne
      · rw [if_neg hinfo, if_neg hinfo]
        refine ⟨fun hne => absurd rfl hne, by simp, ?_⟩
        intro v con hv hcon
        obtain rfl : Writer.start [.publish .deactivate] = v := by simpa using hv
        rw [Writer.writes_start] at hcon
        simpa using hcon
    | polled =>
      dsimp only
      refine ⟨fun _ => ?_, ?_, ?_⟩
      · exact poll_le_silence h.silent (hl rfl hpc)
      · intro v hv
        dsimp only at hv ⊢
        split_ifs at hv with h3
        exact ⟨h3, by simp⟩
      · intro v con hv
        dsimp only at hv
        split_ifs at hv
    | nobeacon v =>
      dsimp only
      split_ifs
      · exact ⟨h.silent, by simp, by simp⟩
      · exact ⟨h.silent, fun _ _ => h.publishing v hpc, by simp⟩
    | deactivate v =>
      dsimp only
      split_ifs
      · exact ⟨h.silent, by simp, by simp⟩
      · refine ⟨h.silent, by simp, ?_⟩
        intro v' con hv' hcon
        obtain rfl : (v.step t.shared).1 = v' := by simpa using hv'
        exact h.deactivating v con hpc (Writer.writes_of_step hcon)

theorem sound_run {labels : List Label} (h : Steps (watch P) Telling (watched (D := D)) labels) :
    Sound (run (watch P) (watched (D := D)) labels) :=
  h.invariant (sound_step P) ⟨fun hne => absurd rfl hne, by simp [watched, init],
    by simp [watched, init]⟩

theorem owned_run (labels : List Label) : (run (step P) (init : Threads D) labels).Owned :=
  invariant (owned_step P) owned_init labels

/-- **`nobeacon` means no beacon**, where polls are telling: when it is written, nothing
was accepted in the last three intervals of the session. -/
theorem silent_of_nobeacon {labels : List Label}
    (h : Steps (watch P) Telling (watched (D := D)) labels) {l : Label}
    (hsent : ((run (watch P) (watched (D := D)) labels).1.step P l).shared.sent
      = (run (watch P) (watched (D := D)) labels).1.shared.sent ++ [.parking_state .nobeacon]) :
    ∃ rest, (run (watch P) (watched (D := D)) labels).2.polls = [] :: [] :: [] :: rest := by
  have hsound := sound_run P h
  have howned : (run (watch P) (watched (D := D)) labels).1.Owned := by
    rw [watch_fst]
    exact owned_run P labels
  obtain ⟨-, hwrites⟩ := writes_nobeacon P howned hsent
  -- the publication is that of a poll, not that of the deactivation branch
  have hpc : ∃ w, (run (watch P) (watched (D := D)) labels).1.condition_pc = .nobeacon w := by
    unfold writer at hwrites
    dsimp only at hwrites
    split at hwrites
    · rename_i w hw
      exact ⟨w, hw⟩
    · rename_i w hw
      exact absurd (hsound.deactivating w _ hw hwrites) (by simp)
    · rw [Writer.writes_start] at hwrites
      simp at hwrites
  obtain ⟨w, hw⟩ := hpc
  obtain ⟨h3, hne⟩ := hsound.publishing w hw
  exact three_le_silence (h3.trans (hsound.silent hne))

/-! ## Completeness -/

/-- The state recorded last is `nobeacon`, and `transferred_info` is, unless the finder has
assigned it since the poll. -/
def Recorded (t : Threads D) (w : Polls) : Prop :=
  w.recorded = some .nobeacon ∧ (w.others = false → t.shared.transferred_info = some .nobeacon)

/-- Where the publication of `nobeacon` is. -/
def Recording (t : Threads D) (w : Polls) (v : Writer) : Prop :=
  v = .start [.publish .nobeacon] ∨ v = ⟨.checked .nobeacon, []⟩ ∨ v = ⟨.sent .nobeacon, []⟩ ∨
    (v = ⟨.idle, []⟩ ∧ Recorded t w)

/-- What every step keeps. -/
structure Complete (s : Threads D × Polls) : Prop where
  -- in a session, what was saved is what has been heard since, if nothing was
  saved : s.1.condition_pc = .outer ∨ s.1.condition_pc = .polled → s.2.polls ≠ [] →
    s.2.interval = [] → s.1.shared.stop_check = s.1.l_check
  -- every silent interval is counted, except for the first of the session
  counted : silence s.2.polls.dropLast ≤ s.1.count
  truth : s.1.shared.transferred_info = some .nobeacon → s.2.recorded = some .nobeacon
  publishing : ∀ v, s.1.condition_pc = .nobeacon v → Recording s.1 s.2 v
  recorded : s.1.condition_pc = .save ∨ s.1.condition_pc = .outer ∨ s.1.condition_pc = .polled →
    s.2.polls ≠ [] → 3 ≤ s.1.count → Recorded s.1 s.2
  outside : s.1.condition_pc = .start ∨ (∃ v, s.1.condition_pc = .deactivate v) → s.2.polls = []

omit [Field D] [LinearOrder D] [IsStrictOrderedRing D] in
/-- The finder does not undo the record. -/
theorem FinderFrame.recorded_mono {t t' : Threads D} {w w' : Polls} (h : FinderFrame t t' w w')
    (hr : Recorded t w) : Recorded t' w' := by
  refine ⟨by rw [h.recorded]; exact hr.1, fun hothers => ?_⟩
  rcases h.assigned with hset | ⟨hsame, htransferred⟩
  · rw [hset] at hothers
    simp at hothers
  · rw [htransferred]
    exact hr.2 (by rw [← hsame]; exact hothers)

/-- The finder never assigns `nobeacon`. -/
theorem transferred_info_beacon_finder {t : Threads D} (ht : t.Owned) (returnList : List Beacon)
    (h : (t.beacon_finder P returnList).shared.transferred_info = some .nobeacon) :
    t.shared.transferred_info = some .nobeacon := by
  rcases (beacon_finder_effect P t returnList).access with ⟨-, htr, -, -⟩ | ⟨hsh, -⟩
  · rwa [htr] at h
  · rw [hsh, Writer.transferred_info_eq] at h
    unfold Writer.assigning at h
    split at h
    · rename_i con hphase
      rw [Option.some_or, Option.some.injEq] at h
      have hown := ht .beacon_finder con (Or.inr (Or.inl hphase))
      rw [h] at hown
      simp [ParkingState.owner] at hown
    · rwa [Option.none_or] at h

theorem complete_beacon_finder {t : Threads D} {w : Polls} (h : Complete (t, w)) (ht : t.Owned)
    (returnList : List Beacon) :
    Complete (t.beacon_finder P returnList, t.observe w (.beacon_finder returnList)) := by
  have hframe := finderFrame P t w returnList
  constructor
  · dsimp only
    rw [hframe.condition_pc, hframe.polls, hframe.l_check]
    intro hpc hpolls hinterval
    rcases hframe.heard with hheard | ⟨hsame, hstop⟩
    · exact absurd hinterval hheard
    · rw [hstop]
      exact h.saved hpc hpolls (by rw [← hsame]; exact hinterval)
  · dsimp only
    rw [hframe.polls, hframe.count]
    exact h.counted
  · dsimp only
    rw [hframe.recorded]
    exact fun htr => h.truth (transferred_info_beacon_finder P ht returnList htr)
  · dsimp only
    rw [hframe.condition_pc]
    intro v hv
    rcases h.publishing v hv with hv | hv | hv | ⟨hv, hr⟩
    · exact Or.inl hv
    · exact Or.inr (Or.inl hv)
    · exact Or.inr (Or.inr (Or.inl hv))
    · exact Or.inr (Or.inr (Or.inr ⟨hv, hframe.recorded_mono hr⟩))
  · dsimp only
    rw [hframe.condition_pc, hframe.polls, hframe.count]
    exact fun hpc hpolls h3 => hframe.recorded_mono (h.recorded hpc hpolls h3)
  · dsimp only
    rw [hframe.condition_pc, hframe.polls]
    exact h.outside

omit [Field D] [LinearOrder D] [IsStrictOrderedRing D] in
/-- A publication of `nobeacon` goes on, and ends with the record. -/
theorem recording_step {t : Threads D} {w : Polls} {v : Writer} (hpc : t.condition_pc = .nobeacon v)
    (hr : Recording t w v)
    (htruth : t.shared.transferred_info = some .nobeacon → w.recorded = some .nobeacon)
    (hdone : ¬ v.Done) :
    Recording { t with condition_pc := .nobeacon (v.step t.shared).1, shared := (v.step t.shared).2 }
      (t.observe w .beacon_condition) (v.step t.shared).1 := by
  have hwriter : t.writer .beacon_condition = v := by simp only [writer, hpc]
  rcases hr with rfl | rfl | rfl | ⟨rfl, -⟩
  · by_cases hc : t.shared.transferred_info = some .nobeacon
    · right; right; right
      simp only [Writer.start, Writer.step, if_pos hc]
      refine ⟨trivial, ?_, fun _ => hc⟩
      simp only [observe, hwriter, hpc, Writer.start, Writer.assigning, Option.none_or]
      exact htruth hc
    · right; left
      simp only [Writer.start, Writer.step, if_neg hc]
  · exact Or.inr (Or.inr (Or.inl rfl))
  · right; right; right
    refine ⟨rfl, ?_, fun _ => rfl⟩
    simp only [observe, hwriter, hpc, Writer.assigning, Option.some_or]
  · exact absurd ⟨rfl, rfl⟩ hdone

omit [Field D] [LinearOrder D] [IsStrictOrderedRing D] in
/-- An access assigns to `transferred_info` what the record says. -/
theorem truth_step {t : Threads D} {w : Polls} {v : Writer} (hw : t.writer .beacon_condition = v)
    (h : t.shared.transferred_info = some .nobeacon → w.recorded = some .nobeacon)
    (htr : (v.step t.shared).2.transferred_info = some .nobeacon) :
    (t.writer .beacon_condition).assigning.or w.recorded = some .nobeacon := by
  rw [Writer.transferred_info_eq] at htr
  rw [hw]
  rcases hassigning : v.assigning with _ | con
  · rw [hassigning, Option.none_or] at htr
    rw [Option.none_or]
    exact h htr
  · rw [hassigning, Option.some_or] at htr
    rwa [Option.some_or]

omit [Field D] [LinearOrder D] [IsStrictOrderedRing D] in
/-- A silent interval is counted, where the one before it has saved what was heard. -/
theorem silence_le_poll {t : Threads D} {w : Polls} (h : Complete (t, w))
    (hpc : t.condition_pc = .polled) : silence (w.interval :: w.polls).dropLast ≤ t.poll := by
  by_cases hpolls : w.polls = []
  · rw [hpolls]
    exact Nat.zero_le _
  · rw [List.dropLast_cons_of_ne_nil hpolls, silence]
    split_ifs with hinterval
    · have hsaved := h.saved (Or.inr hpc) hpolls hinterval
      have hcount := h.counted
      dsimp only at hsaved hcount
      rw [poll, if_pos hsaved]
      omega
    · exact Nat.zero_le _

omit [Field D] [LinearOrder D] [IsStrictOrderedRing D] in
theorem complete_poll {t : Threads D} {w : Polls} (h : Complete (t, w))
    (hpc : t.condition_pc = .polled) :
    Complete (t.beacon_condition, t.observe w .beacon_condition) := by
  have hw : t.writer .beacon_condition = .start [] := by simp only [writer, hpc]
  have hcounted := silence_le_poll h hpc
  simp only [beacon_condition, observe, hpc, hw, Writer.start, Writer.assigning, Option.none_or]
  refine ⟨?_, hcounted, h.truth, ?_, ?_, ?_⟩
  · intro hpc'
    dsimp only at hpc'
    split_ifs at hpc' <;> simp at hpc'
  · intro v hv
    dsimp only at hv
    split_ifs at hv
    exact Or.inl (ConditionPc.nobeacon.inj hv).symm
  · intro hpc' _ h3
    dsimp only at hpc' h3
    rw [if_pos h3] at hpc'
    simp at hpc'
  · rintro (hpc' | ⟨v, hpc'⟩)
    · dsimp only at hpc'
      split_ifs at hpc'
    · dsimp only at hpc'
      split_ifs at hpc'

omit [Field D] [LinearOrder D] [IsStrictOrderedRing D] in
theorem complete_nobeacon {t : Threads D} {w : Polls} {v : Writer} (h : Complete (t, w))
    (hpc : t.condition_pc = .nobeacon v) :
    Complete (t.beacon_condition, t.observe w .beacon_condition) := by
  have hw : t.writer .beacon_condition = v := by simp only [writer, hpc]
  have hrecording := h.publishing v hpc
  simp only [beacon_condition, hpc]
  by_cases hdone : v.Done
  · have hrecorded : Recorded t w := by
      rcases hrecording with rfl | rfl | rfl | ⟨-, hr⟩
      · simp [Writer.Done, Writer.start] at hdone
      · simp [Writer.Done] at hdone
      · simp [Writer.Done] at hdone
      · exact hr
    rw [if_pos hdone]
    simp only [observe, hpc, hw, hdone.assigning_eq, Option.none_or]
    exact ⟨by simp, h.counted, h.truth, by simp, fun _ _ _ => hrecorded, by simp⟩
  · have hnext := recording_step hpc hrecording h.truth hdone
    have htruth := truth_step hw h.truth
    rw [if_neg hdone]
    simp only [observe, hpc] at hnext ⊢
    refine ⟨by simp, h.counted, htruth, ?_, by simp, by simp⟩
    intro v' hv'
    obtain rfl : (v.step t.shared).1 = v' := by simpa using hv'
    exact hnext

omit [Field D] [LinearOrder D] [IsStrictOrderedRing D] in
theorem complete_deactivate {t : Threads D} {w : Polls} {v : Writer} (h : Complete (t, w))
    (hpc : t.condition_pc = .deactivate v) :
    Complete (t.beacon_condition, t.observe w .beacon_condition) := by
  have hw : t.writer .beacon_condition = v := by simp only [writer, hpc]
  have hpolls : w.polls = [] := h.outside (Or.inr ⟨v, hpc⟩)
  simp only [beacon_condition, hpc]
  by_cases hdone : v.Done
  · rw [if_pos hdone]
    simp only [observe, hpc, hw, hdone.assigning_eq, Option.none_or]
    exact ⟨fun _ hne => absurd hpolls hne, h.counted, h.truth, by simp,
      fun _ hne => absurd hpolls hne, fun _ => hpolls⟩
  · have htruth := truth_step hw h.truth
    rw [if_neg hdone]
    simp only [observe, hpc]
    exact ⟨fun _ hne => absurd hpolls hne, h.counted, htruth, by simp,
      fun _ hne => absurd hpolls hne, fun _ => hpolls⟩

omit [Field D] [LinearOrder D] [IsStrictOrderedRing D] in
theorem complete_beacon_condition {t : Threads D} {w : Polls} (h : Complete (t, w)) :
    Complete (t.beacon_condition, t.observe w .beacon_condition) := by
  cases hpc : t.condition_pc with
  | start =>
    have hw : t.writer .beacon_condition = .start [] := by simp only [writer, hpc]
    have hpolls : w.polls = [] := h.outside (Or.inl hpc)
    simp only [beacon_condition, observe, hpc, hw, Writer.start, Writer.assigning, Option.none_or]
    exact ⟨fun _ _ _ => rfl, h.counted, h.truth, by simp, fun _ hne => absurd hpolls hne, by simp⟩
  | save =>
    have hw : t.writer .beacon_condition = .start [] := by simp only [writer, hpc]
    simp only [beacon_condition, observe, hpc, hw, Writer.start, Writer.assigning, Option.none_or]
    exact ⟨fun _ _ _ => rfl, h.counted, h.truth, by simp,
      fun _ => h.recorded (Or.inl hpc), by simp⟩
  | outer =>
    have hw : t.writer .beacon_condition = .start [] := by simp only [writer, hpc]
    simp only [beacon_condition, observe, hpc, hw, Writer.start, Writer.assigning, Option.none_or]
    by_cases hinfo : t.shared.info = some 1
    · rw [if_pos hinfo, if_pos hinfo]
      by_cases hrunning : w.running = true
      · rw [if_pos hrunning]
        exact ⟨fun _ => h.saved (Or.inl hpc), h.counted, h.truth, by simp,
          fun _ => h.recorded (Or.inr (Or.inl hpc)), by simp⟩
      · rw [if_neg hrunning]
        exact ⟨fun _ hne => absurd rfl hne, Nat.zero_le _, h.truth, by simp,
          fun _ hne => absurd rfl hne, by simp⟩
    · rw [if_neg hinfo, if_neg hinfo]
      exact ⟨fun _ hne => absurd rfl hne, Nat.zero_le _, h.truth, by simp,
        fun _ hne => absurd rfl hne, by simp⟩
  | polled => exact complete_poll h hpc
  | nobeacon v => exact complete_nobeacon h hpc
  | deactivate v => exact complete_deactivate h hpc

theorem complete_run (labels : List Label) :
    Complete (run (watch P) (watched (D := D)) labels) := by
  induction labels using List.reverseRecOn with
  | nil =>
    exact ⟨fun _ hne => absurd rfl hne, Nat.zero_le _, by simp [watched, init, Shared.init],
      by simp [watched, init], fun _ hne => absurd rfl hne, fun _ => rfl⟩
  | append_singleton labels l ih =>
    have howned : (run (watch P) (watched (D := D)) labels).1.Owned := by
      rw [watch_fst]
      exact owned_run P labels
    rw [run_concat]
    cases l with
    | mode_check info =>
      exact ⟨ih.saved, ih.counted, ih.truth, ih.publishing, ih.recorded, ih.outside⟩
    | beacon_finder returnList => exact complete_beacon_finder P ih howned returnList
    | beacon_condition => exact complete_beacon_condition ih

/-- **No beacon means `nobeacon`**: after four silent intervals of a session, once the
publication of the poll is over. -/
theorem nobeacon_of_silent {labels : List Label} {rest : List (List Beacon)}
    (hpolls : (run (watch P) (watched (D := D)) labels).2.polls = [] :: [] :: [] :: [] :: rest)
    (hover : ∀ v, (run (watch P) (watched (D := D)) labels).1.condition_pc ≠ .nobeacon v) :
    Recorded (run (watch P) (watched (D := D)) labels).1
      (run (watch P) (watched (D := D)) labels).2 := by
  have h := complete_run P (D := D) labels
  have hne : (run (watch P) (watched (D := D)) labels).2.polls ≠ [] := by
    rw [hpolls]
    simp
  apply h.recorded _ hne
  · have hcounted := h.counted
    rw [hpolls] at hcounted
    simp only [List.dropLast_cons_cons, silence, if_true] at hcounted
    omega
  · cases hpc : (run (watch P) (watched (D := D)) labels).1.condition_pc with
    | start => exact absurd (h.outside (Or.inl hpc)) hne
    | outer => exact Or.inr (Or.inl rfl)
    | polled => exact Or.inr (Or.inr rfl)
    | save => exact Or.inl rfl
    | nobeacon v => exact absurd hpc (hover v)
    | deactivate v => exact absurd (h.outside (Or.inr ⟨v, hpc⟩)) hne

/-- **`nobeacon`.** In every run whose polls are telling, `nobeacon` is written only when
nothing was accepted in the last three poll intervals of the session. In every run
whatsoever, after four intervals without an advertisement, once the publication of the
fourth poll is over, the state `BeaconCondition` has recorded last is `nobeacon`, and
`transferred_info` still is, unless the finder has assigned it since that poll. -/
theorem nobeacon_sound_complete :
    (∀ labels : List Label, Steps (watch P) Telling (watched (D := D)) labels →
      ∀ pre l post, labels = pre ++ l :: post →
        ((run (watch P) (watched (D := D)) pre).1.step P l).shared.sent
          = (run (watch P) (watched (D := D)) pre).1.shared.sent ++ [.parking_state .nobeacon] →
        ∃ rest, (run (watch P) (watched (D := D)) pre).2.polls = [] :: [] :: [] :: rest) ∧
    (∀ (labels : List Label) (rest : List (List Beacon)),
      (run (watch P) (watched (D := D)) labels).2.polls = [] :: [] :: [] :: [] :: rest →
      (∀ v, (run (watch P) (watched (D := D)) labels).1.condition_pc ≠ .nobeacon v) →
      (run (watch P) (watched (D := D)) labels).2.recorded = some .nobeacon ∧
        ((run (watch P) (watched (D := D)) labels).2.others = false →
          (run (watch P) (watched (D := D)) labels).1.shared.transferred_info
            = some .nobeacon)) := by
  constructor
  · rintro labels htelling pre l post rfl hsent
    rw [steps_append] at htelling
    exact silent_of_nobeacon P htelling.1 hsent
  · intro labels rest hpolls hover
    exact nobeacon_of_silent P hpolls hover

end Watch

/-! ## Polls in silence, and of a beacon that does not move -/

/-- The mode becomes `1`, and three polls pass without an advertisement. -/
def three_silent_polls : List Label :=
  [.mode_check 1, .beacon_condition] ++
    (List.replicate 2 [.beacon_condition, .beacon_condition, .beacon_condition]).flatten ++
    [.beacon_condition, .beacon_condition, .beacon_condition]

/-- The third poll publishes `nobeacon`, rightly. -/
theorem nobeacon_after_three_silent_polls :
    Steps (watch Power.floor) Telling watched (three_silent_polls ++ [.beacon_condition]) ∧
    ∃ rest, (run (watch Power.floor) watched three_silent_polls).2.polls
      = [] :: [] :: [] :: rest := by
  have htelling : Steps (watch Power.floor) Telling watched
      (three_silent_polls ++ [.beacon_condition]) := by
    decide +kernel
  refine ⟨htelling, (nobeacon_sound_complete Power.floor).1 _ htelling three_silent_polls
    .beacon_condition [] rfl ?_⟩
  decide +kernel

/-- One poll interval in which the finder hears `39` once, always with the same RSSI. -/
def steady : List Label :=
  [.beacon_condition, .beacon_finder [⟨39, -59, -59⟩], .beacon_finder [], .beacon_finder [],
    .beacon_condition, .beacon_condition]

/-- The mode becomes `1`, and four such intervals pass. -/
def four_steady_polls : List Label :=
  [.mode_check 1, .beacon_condition, .beacon_finder []] ++ steady ++ steady ++ steady ++ steady

/-- The fourth poll writes `nobeacon`, although `39` was heard in all four intervals. -/
theorem nobeacon_of_steady_beacon :
    ((run (watch Power.floor) watched four_steady_polls).1.step Power.floor
        .beacon_condition).shared.sent
      = (run (watch Power.floor) watched four_steady_polls).1.shared.sent
        ++ [.parking_state .nobeacon] ∧
    (run (watch Power.floor) watched four_steady_polls).2.polls
      = List.replicate 4 [⟨39, -59, -59⟩] := by
  decide +kernel

end Threads

end SmartBike.Parking
