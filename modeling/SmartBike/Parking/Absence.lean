/-
A beacon that disappears: how many results of `parse_events` the finder can
consume without hearing the locked beacon before it publishes `stolen`.

The sampling loop is left only on counts of heard beacons, so what matters is how
many of these results contain the other beacon. A round in which only the other
one is heard takes at most ten of them and gives the locked beacon the distance
`100.0`; three such rounds after the one that was being sampled are an alarm
(`Absent`). A result without either beacon moves nothing: silence is left to
`BeaconCondition` and its `nobeacon`.
-/
import SmartBike.Parking.Threads

set_option autoImplicit false

open Runs CheckSend

namespace SmartBike.Parking

/-- A result of `parse_events` has an advertisement of the beacon. -/
def Heard (m : Major) (returnList : List Beacon) : Prop := ∃ bea ∈ returnList, bea.major = m.number

instance (m : Major) (returnList : List Beacon) : Decidable (Heard m returnList) :=
  inferInstanceAs (Decidable (∃ _ ∈ _, _))

/-- How many strings of a result come from the beacon. -/
def heard (m : Major) (returnList : List Beacon) : ℕ :=
  returnList.countP fun bea => bea.major = m.number

theorem heard_pos_iff (m : Major) (returnList : List Beacon) :
    0 < heard m returnList ↔ Heard m returnList := by
  unfold heard Heard
  rw [List.countP_pos_iff]
  simp only [decide_eq_true_eq]

@[simp] theorem heard_nil (m : Major) : heard m [] = 0 := rfl

theorem heard_cons (m : Major) (bea : Beacon) (rest : List Beacon) :
    heard m (bea :: rest) = heard m rest + if bea.major = m.number then 1 else 0 := by
  unfold heard
  rw [List.countP_cons]
  by_cases h : bea.major = m.number
  · rw [if_pos h, if_pos (by simpa using h)]
  · rw [if_neg h, if_neg (by simpa using h)]

/-! ## A publication that is due -/

namespace Writer

/-- The test for `con` or its `sendall` is the next access. -/
def Due (w : Writer) (con : ParkingState) : Prop :=
  (w.phase = .idle ∧ ∃ rest, w.todo = .publish con :: rest) ∨ w.phase = .checked con

/-- The publication of `safe` a session starts with is not over. -/
def Locking (w : Writer) : Prop := w.Due .safe ∨ w.phase = .sent .safe

theorem not_locking_idle {w : Writer} (h : w = .start []) : ¬ w.Locking := by
  subst h
  rintro ((⟨-, rest, h⟩ | h) | h) <;> simp [start] at h

theorem Due.not_locking {w : Writer} (h : w.Due .stolen) : ¬ w.Locking := by
  intro hlock
  rcases h with ⟨hphase, rest, htodo⟩ | hphase <;>
    rcases hlock with (⟨hphase', rest', htodo'⟩ | hphase') | hphase' <;> simp_all

/-- A due publication is suppressed, still due, or sent. -/
theorem due_step {w : Writer} {con : ParkingState} (h : w.Due con) (sh : Shared) :
    sh.transferred_info = some con ∨ (w.step sh).1.Due con ∨
      (w.step sh).2.sent = sh.sent ++ [.parking_state con] := by
  obtain ⟨phase, todo⟩ := w
  rcases h with ⟨hphase, rest, htodo⟩ | hphase
  · dsimp only at hphase htodo
    subst hphase htodo
    by_cases hc : sh.transferred_info = some con
    · exact Or.inl hc
    · right; left; right
      simp only [step, if_neg hc]
  · dsimp only at hphase
    subst hphase
    exact Or.inr (Or.inr rfl)

/-- The publication of `safe` ends with `safe` in `transferred_info`. -/
theorem locking_step {w : Writer} (h : w.Locking) (sh : Shared) :
    (w.step sh).1.Locking ∨ (w.step sh).2.transferred_info = some .safe := by
  obtain ⟨phase, todo⟩ := w
  rcases h with (⟨hphase, rest, htodo⟩ | hphase) | hphase
  · dsimp only at hphase htodo
    subst hphase htodo
    by_cases hc : sh.transferred_info = some .safe
    · right
      simp only [step, if_pos hc]
      exact hc
    · left; left; right
      simp only [step, if_neg hc]
  · dsimp only at hphase
    subst hphase
    exact Or.inl (Or.inr rfl)
  · dsimp only at hphase
    subst hphase
    exact Or.inr rfl

/-- A new value of `transferred_info` is the one the thread has just sent. -/
theorem transferred_info_step {w : Writer} {sh : Shared} {con : ParkingState}
    (h : (w.step sh).2.transferred_info = some con) :
    sh.transferred_info = some con ∨ w.phase = .sent con := by
  obtain ⟨phase, todo⟩ := w
  cases phase with
  | checked c => exact Or.inl h
  | sent c =>
    obtain rfl : c = con := by simpa [step] using h
    exact Or.inr rfl
  | idle =>
    left
    rcases todo with _ | ⟨act, rest⟩
    · exact h
    · cases act with
      | location m => exact h
      | output high => exact h
      | publish c =>
        simp only [step] at h
        split_ifs at h <;> exact h

/-- A thread that has sent a status has written its message. -/
theorem sent_of_step {w : Writer} {sh : Shared} {con : ParkingState}
    (h : (w.step sh).1.phase = .sent con) :
    (w.step sh).2.sent = sh.sent ++ [.parking_state con] := by
  obtain ⟨phase, todo⟩ := w
  cases phase with
  | checked c =>
    obtain rfl : c = con := by simpa [step] using h
    rfl
  | sent c => simp [step] at h
  | idle =>
    rcases todo with _ | ⟨act, rest⟩
    · simp [step] at h
    · cases act with
      | location m => simp [step] at h
      | output high => simp [step] at h
      | publish c =>
        simp only [step] at h
        split_ifs at h

end Writer

namespace Threads

variable {D : Type*} [Field D] [LinearOrder D] [IsStrictOrderedRing D] (P : Power D)

/-- What a step takes from `parse_events`, if it calls it. -/
def parse_events (t : Threads D) : Label → List (List Beacon)
  | .beacon_finder returnList =>
    match t.finder_pc with
    | .sampling _ => [returnList]
    | _ => []
  | _ => []

/-- The results of `parse_events` consumed in a run. -/
def consumed (t : Threads D) (labels : List Label) : List (List Beacon) :=
  emitted (step P) parse_events t labels

omit [Field D] [LinearOrder D] [IsStrictOrderedRing D] in
theorem parse_events_length (t : Threads D) (l : Label) : (t.parse_events l).length ≤ 1 := by
  unfold parse_events
  split
  · split <;> simp
  · simp

/-! ## What holds from the lock on -/

/-- `stolen` is among the messages written after `sent`. -/
def PublishedSince (sent : List Message) (t : Threads D) : Prop :=
  ∃ new, t.shared.sent = sent ++ new ∧ .parking_state .stolen ∈ new

omit [Field D] [LinearOrder D] [IsStrictOrderedRing D] in
theorem PublishedSince.mono {sent : List Message} {t t' : Threads D} (h : PublishedSince sent t)
    (hgrown : t.shared.sent <+: t'.shared.sent) : PublishedSince sent t' := by
  obtain ⟨new, hnew, hmem⟩ := h
  obtain ⟨more, hmore⟩ := hgrown
  refine ⟨new ++ more, ?_, List.mem_append_left _ hmem⟩
  rw [← hmore, hnew, List.append_assoc]

omit [Field D] [LinearOrder D] [IsStrictOrderedRing D] in
theorem publishedSince_of_append {sent : List Message} {t t' : Threads D}
    (hgrown : sent <+: t.shared.sent)
    (h : t'.shared.sent = t.shared.sent ++ [.parking_state .stolen]) : PublishedSince sent t' := by
  obtain ⟨new, hnew⟩ := hgrown
  refine ⟨new ++ [.parking_state .stolen], ?_, by simp⟩
  rw [h, ← hnew, List.append_assoc]

/-- After a lock, `transferred_info` says `stolen` only if that was published since,
or while the `safe` of the lock is not over. -/
structure Since (sent : List Message) (t : Threads D) : Prop where
  owned : t.Owned
  grown : sent <+: t.shared.sent
  assigned : t.shared.transferred_info = some .stolen →
    PublishedSince sent t ∨ (t.writer .beacon_finder).Locking
  sending : (t.writer .beacon_finder).phase = .sent .stolen → PublishedSince sent t

omit [Field D] [LinearOrder D] [IsStrictOrderedRing D] in
theorem Since.of_effect {sent : List Message} {i : Thread} {t t' : Threads D}
    (h : Effect i t t') (hs : Since sent t) : Since sent t' := by
  have hgrown := h.sent_grows
  refine ⟨h.owned hs.owned, hs.grown.trans hgrown, ?_, ?_⟩
  · intro hstolen
    rcases h.access with ⟨hw, htr, -, -⟩ | ⟨hsh, hw'⟩
    · -- an access outside the publications
      rw [htr] at hstolen
      rcases hs.assigned hstolen with hpub | hlock
      · exact Or.inl (hpub.mono hgrown)
      · cases i with
        | beacon_finder => exact absurd hlock (Writer.not_locking_idle hw)
        | beacon_condition => exact Or.inr (by rwa [h.other .beacon_finder (by simp)])
    · have hbefore := hstolen
      rw [hsh] at hbefore
      cases i with
      | beacon_finder =>
        rcases Writer.transferred_info_step hbefore with htr | hphase
        · rcases hs.assigned htr with hpub | hlock
          · exact Or.inl (hpub.mono hgrown)
          · rcases Writer.locking_step hlock t.shared with hlock' | hsafe
            · exact Or.inr (by rwa [hw'])
            · rw [hbefore] at hsafe
              simp at hsafe
        · exact Or.inl ((hs.sending hphase).mono hgrown)
      | beacon_condition =>
        rw [h.other .beacon_finder (by simp)]
        rcases Writer.transferred_info_step hbefore with htr | hphase
        · exact (hs.assigned htr).imp_left (·.mono hgrown)
        · -- the other thread never writes `stolen`
          have := hs.owned .beacon_condition .stolen (Or.inr (Or.inl hphase))
          simp [ParkingState.owner] at this
  · intro hphase
    cases i with
    | beacon_condition =>
      rw [h.other .beacon_finder (by simp)] at hphase
      exact (hs.sending hphase).mono hgrown
    | beacon_finder =>
      rcases h.access with ⟨-, -, -, acts, hw', -⟩ | ⟨hsh, hw'⟩
      · rw [hw'] at hphase
        simp [Writer.start] at hphase
      · rw [hw'] at hphase
        apply publishedSince_of_append hs.grown
        rw [hsh, Writer.sent_of_step hphase]

/-! ## The locked session -/

theorem since_step {sent : List Message} {t : Threads D} (h : Since sent t) (l : Label) :
    Since sent (t.step P l) := by
  cases l with
  | mode_check info => exact ⟨h.owned, h.grown, h.assigned, h.sending⟩
  | beacon_finder returnList => exact h.of_effect (beacon_finder_effect P t returnList)
  | beacon_condition => exact h.of_effect (beacon_condition_effect t)

omit [Field D] [LinearOrder D] [IsStrictOrderedRing D] in
theorem beacon_condition_frame (t : Threads D) :
    t.beacon_condition.finder = t.finder ∧ t.beacon_condition.finder_pc = t.finder_pc := by
  unfold beacon_condition
  split <;> (try split_ifs) <;> exact ⟨rfl, rfl⟩

/-- The finder after `o` results with the other beacon and none with `m`, of which it
has completed `j` rounds. The first of these may have heard `m` before. -/
def Absent (m : Major) (o j : ℕ) (t : Threads D) : Prop :=
  match t.finder_pc with
  | .outer => o ≤ 10 * j
  | .sampling s => o ≤ 10 * j + 9 ∧ o ≤ 10 * j + s.num m.other ∧ (0 < j → s.num m = 0)
  | .listening s rest =>
    o ≤ 10 * j + 10 ∧ o ≤ 10 * j + s.num m.other + heard m.other rest ∧
      (0 < j → s.num m = 0 ∧ heard m rest = 0)
  | .post s => o ≤ 10 * j + 10 ∧ (0 < j → s.num m = 0)
  | .acting _ => o ≤ 10 * j

/-- What holds from a lock on `m` with reference `r` on, while the mode stays `1`. -/
structure Guarded (sent : List Message) (m : Major) (r : D) (t : Threads D) : Prop where
  since : Since sent t
  info : t.shared.info = some 1
  locked : t.finder.Locked m r

/-- What holds while `m` is not heard: `stolen` is published, or due, or at most three
rounds are completed and every one but the first counts as lost. -/
structure Missing (sent : List Message) (m : Major) (r : D) (o : ℕ) (t : Threads D) : Prop
    extends Guarded sent m r t where
  progress : PublishedSince sent t ∨
    (∃ w, t.finder_pc = .acting w ∧ w.Due .stolen ∧ o ≤ 40) ∨
    ∃ j, j ≤ 3 ∧ j ≤ t.finder.beacon_lost m + 1 ∧ Absent m o j t

theorem guarded_step {sent : List Message} {m : Major} {r : D} {t : Threads D}
    (h : Guarded sent m r t) {l : Label} (hmode : ∀ info, l = .mode_check info → info = 1) :
    Guarded sent m r (t.step P l) := by
  have hsince := since_step P h.since l
  cases l with
  | mode_check info =>
    obtain rfl := hmode info rfl
    exact ⟨hsince, rfl, h.locked⟩
  | beacon_finder returnList =>
    exact ⟨hsince, (beacon_finder_effect P t returnList).info.trans h.info,
      locked_beacon_finder P h.info h.locked returnList⟩
  | beacon_condition =>
    refine ⟨hsince, (beacon_condition_effect t).info.trans h.info, ?_⟩
    have hlocked := h.locked
    rw [← t.beacon_condition_frame.1] at hlocked
    exact hlocked

omit [IsStrictOrderedRing D] in
/-- Before the first result without `m` nothing is claimed of the round. -/
theorem Guarded.missing {sent : List Message} {m : Major} {r : D} {t : Threads D}
    (h : Guarded sent m r t) : Missing sent m r 0 t := by
  refine ⟨h, Or.inr (Or.inr ⟨0, by omega, by omega, ?_⟩)⟩
  unfold Absent
  split <;> simp

omit [IsStrictOrderedRing D] in
/-- A round away from the reference is counted, or it is the alarm. -/
theorem decision_away {st : BeaconFinder D} {m : Major} {r : D} (h : st.Locked m r)
    {d : Measured D} (hd : m.tolerance < |d.dist m - r|) :
    (∃ rest, (st.decision d).2 = .publish .stolen :: rest) ∨
      (st.beacon_lost m < 2 ∧ (st.decision d).1.beacon_lost m = st.beacon_lost m + 1) := by
  obtain ⟨-, hcount, hacts⟩ := BeaconFinder.decision_locked h d
  by_cases h2 : 2 ≤ st.beacon_lost m
  · left
    have hv : verdict m.tolerance r (d.dist m) (st.beacon_lost m) = .stolen :=
      (verdict_eq_stolen_iff h.pos _).mpr ⟨hd, h2⟩
    rw [hv] at hacts
    rcases hacts with ha | ha
    · exact ⟨_, ha⟩
    · exact ⟨_, ha⟩
  · right
    refine ⟨by omega, ?_⟩
    rw [hcount, verdict_count h.pos, if_pos hd, if_neg h2]

/-- The results consumed by a step that contain the other beacon. -/
def others (m : Major) (t : Threads D) (l : Label) : ℕ :=
  (t.parse_events l).countP fun res => Heard m.other res

omit [Field D] [LinearOrder D] [IsStrictOrderedRing D] in
theorem others_of_not_sampling {m : Major} {t : Threads D} {returnList : List Beacon}
    (h : t.parse_events (.beacon_finder returnList) = []) :
    others m t (.beacon_finder returnList) = 0 := by
  rw [others, h, List.countP_nil]

/-- A result without `m`: it is the other beacon's if there is any. -/
theorem absent_sampling {m : Major} {o j : ℕ} {t : Threads D} {s : Sample}
    (hpc : t.finder_pc = .sampling s) (habs : Absent m o j t) (returnList : List Beacon)
    (hres : ∀ res ∈ t.parse_events (.beacon_finder returnList), ¬ Heard m res) :
    Absent m (o + others m t (.beacon_finder returnList)) j (t.beacon_finder P returnList) := by
  have hcons : t.parse_events (.beacon_finder returnList) = [returnList] := by
    simp only [parse_events, hpc]
  have h' : t.beacon_finder P returnList = { t with finder_pc := .listening s returnList } := by
    simp only [beacon_finder, hpc]
  have hno : heard m returnList = 0 := by
    have hn := hres returnList (by rw [hcons]; exact List.mem_singleton_self _)
    rw [← heard_pos_iff] at hn
    omega
  have ho : others m t (.beacon_finder returnList) ≤ 1 ∧
      others m t (.beacon_finder returnList) ≤ heard m.other returnList := by
    unfold others
    rw [hcons, List.countP_singleton]
    split_ifs with hh
    · have := (heard_pos_iff m.other returnList).mpr (by simpa using hh)
      omega
    · omega
  simp only [Absent, hpc] at habs
  obtain ⟨h9, hnum, hzero⟩ := habs
  rw [h']
  simp only [Absent]
  exact ⟨by omega, by omega, fun hpos => ⟨hzero hpos, hno⟩⟩

/-- An advertisement of the result, or its end. -/
theorem absent_listening {m : Major} {o j : ℕ} {t : Threads D} {s : Sample}
    {rest : List Beacon} (hpc : t.finder_pc = .listening s rest) (habs : Absent m o j t)
    (returnList : List Beacon) : Absent m o j (t.beacon_finder P returnList) := by
  simp only [Absent, hpc] at habs
  obtain ⟨h10, hnum, hzero⟩ := habs
  cases rest with
  | nil =>
    by_cases hopen : s.Open
    · -- the loop goes on: fewer than ten of the other beacon
      have h10' := ((Sample.open_iff s m).mp hopen).2
      simp only [heard_nil, Nat.add_zero] at hnum
      simp only [Absent, beacon_finder, hpc, if_pos hopen]
      exact ⟨by omega, by omega, fun hpos => (hzero hpos).1⟩
    · simp only [Absent, beacon_finder, hpc, if_neg hopen]
      exact ⟨by omega, fun hpos => (hzero hpos).1⟩
  | cons bea rest =>
    rw [heard_cons] at hnum
    simp only [Absent, beacon_finder, hpc, Sample.num_hear]
    refine ⟨by omega, by omega, fun hpos => ?_⟩
    obtain ⟨hs, hrest⟩ := hzero hpos
    rw [heard_cons] at hrest
    omega

/-- The decision of a round: the next one counts, or `stolen` is due. -/
theorem absent_post {m : Major} {r : D} {o j : ℕ} {t : Threads D} {s : Sample}
    (hpc : t.finder_pc = .post s) (hr : m.tolerance < |100 - r|)
    (hinfo : t.shared.info = some 1) (hl : t.finder.Locked m r)
    (hj : j ≤ 3) (hlost : j ≤ t.finder.beacon_lost m + 1) (habs : Absent m o j t)
    (returnList : List Beacon) :
    (∃ w, (t.beacon_finder P returnList).finder_pc = .acting w ∧ w.Due .stolen ∧ o ≤ 40) ∨
      ∃ j, j ≤ 3 ∧ j ≤ (t.beacon_finder P returnList).finder.beacon_lost m + 1 ∧
        Absent m o j (t.beacon_finder P returnList) := by
  have h' : t.beacon_finder P returnList = { t with
      finder_pc := .acting (.start (t.finder.decision (s.measure P)).2)
      finder := (t.finder.decision (s.measure P)).1 } := by
    simp only [beacon_finder, hpc, hinfo, Option.some.injEq, one_ne_zero, if_false]
  simp only [Absent, hpc] at habs
  obtain ⟨h10, hzero⟩ := habs
  rw [h']
  rcases Nat.eq_zero_or_pos j with rfl | hpos
  · -- the round that was being sampled when the beacon disappeared
    refine Or.inr ⟨1, by omega, by omega, ?_⟩
    simp only [Absent]
    omega
  · have hunheard : (s.measure P).dist m = 100 := dist_measure_unheard P s m (hzero hpos)
    rcases decision_away hl (hunheard ▸ hr) with ⟨rest, hacts⟩ | ⟨h2, hcount⟩
    · left
      refine ⟨_, rfl, Or.inl ⟨rfl, rest, hacts⟩, by omega⟩
    · right
      refine ⟨j + 1, by omega, by dsimp only; omega, ?_⟩
      simp only [Absent]
      omega

/-- The count while the finder is in a round, or between two rounds. -/
theorem absent_beacon_finder {m : Major} {r : D} {o j : ℕ} {t : Threads D}
    (hr : m.tolerance < |100 - r|) (hinfo : t.shared.info = some 1) (hl : t.finder.Locked m r)
    (hj : j ≤ 3) (hlost : j ≤ t.finder.beacon_lost m + 1) (habs : Absent m o j t)
    (returnList : List Beacon)
    (hres : ∀ res ∈ t.parse_events (.beacon_finder returnList), ¬ Heard m res) :
    let t' := t.beacon_finder P returnList
    let o' := o + others m t (.beacon_finder returnList)
    (∃ w, t'.finder_pc = .acting w ∧ w.Due .stolen ∧ o' ≤ 40) ∨
      ∃ j, j ≤ 3 ∧ j ≤ t'.finder.beacon_lost m + 1 ∧ Absent m o' j t' := by
  cases hpc : t.finder_pc with
  | outer =>
    have ho : others m t (.beacon_finder returnList) = 0 :=
      others_of_not_sampling (by simp only [parse_events, hpc])
    have h' : t.beacon_finder P returnList = { t with finder_pc := .sampling .init } := by
      simp only [beacon_finder, hpc, if_pos hinfo]
    simp only [Absent, hpc] at habs
    rw [ho, h']
    refine Or.inr ⟨j, hj, hlost, ?_⟩
    simp only [Absent, Sample.num_init]
    exact ⟨by omega, by omega, fun _ => trivial⟩
  | sampling s =>
    refine Or.inr ⟨j, hj, ?_, absent_sampling P hpc habs returnList hres⟩
    simpa only [beacon_finder, hpc] using hlost
  | listening s rest =>
    rw [others_of_not_sampling (by simp only [parse_events, hpc]), Nat.add_zero]
    refine Or.inr ⟨j, hj, ?_, absent_listening P hpc habs returnList⟩
    cases rest <;> simpa only [beacon_finder, hpc] using hlost
  | post s =>
    rw [others_of_not_sampling (by simp only [parse_events, hpc]), Nat.add_zero]
    exact absent_post P hpc hr hinfo hl hj hlost habs returnList
  | acting w =>
    have ho : others m t (.beacon_finder returnList) = 0 :=
      others_of_not_sampling (by simp only [parse_events, hpc])
    simp only [Absent, hpc] at habs
    rw [ho]
    refine Or.inr ⟨j, hj, ?_, ?_⟩
    · simp only [beacon_finder, hpc]
      split_ifs <;> exact hlost
    · simp only [Absent, beacon_finder, hpc]
      split_ifs <;> exact habs

/-- **What one step of the finder does to the count.** -/
theorem missing_beacon_finder {sent : List Message} {m : Major} {r : D} {o : ℕ} {t : Threads D}
    (hr : m.tolerance < |100 - r|) (h : Missing sent m r o t) (returnList : List Beacon)
    (hres : ∀ res ∈ t.parse_events (.beacon_finder returnList), ¬ Heard m res) :
    Missing sent m r (o + others m t (.beacon_finder returnList))
      (t.step P (.beacon_finder returnList)) := by
  have heffect := beacon_finder_effect P t returnList
  refine ⟨guarded_step P h.toGuarded (by simp), ?_⟩
  rcases h.progress with hpub | ⟨w, hpc, hdue, ho⟩ | ⟨j, hj, hlost, habs⟩
  · exact Or.inl (hpub.mono heffect.sent_grows)
  · -- the publication of `stolen` is under way
    have hw : t.writer .beacon_finder = w := by simp only [writer, hpc]
    have hnone : others m t (.beacon_finder returnList) = 0 :=
      others_of_not_sampling (by simp only [parse_events, hpc])
    have hnot : ¬ w.Done := by
      rintro ⟨hidle, htodo⟩
      rcases hdue with ⟨-, rest, htodo'⟩ | hchecked
      · rw [htodo] at htodo'
        simp at htodo'
      · rw [hidle] at hchecked
        simp at hchecked
    have h' : t.beacon_finder P returnList
        = { t with finder_pc := .acting (w.step t.shared).1, shared := (w.step t.shared).2 } := by
      simp only [beacon_finder, hpc, if_neg hnot]
    rcases w.due_step hdue t.shared with htr | hdue' | hsent
    · -- suppressed: the earlier `stolen` is itself one since the lock
      left
      refine PublishedSince.mono ?_ heffect.sent_grows
      rcases h.since.assigned htr with hpub | hlock
      · exact hpub
      · exfalso
        rw [hw] at hlock
        exact hdue.not_locking hlock
    · right; left
      refine ⟨_, ?_, hdue', by omega⟩
      change (t.beacon_finder P returnList).finder_pc = _
      rw [h']
    · left
      apply publishedSince_of_append h.since.grown
      change (t.beacon_finder P returnList).shared.sent = _
      rw [h']
      exact hsent
  · exact Or.inr (absent_beacon_finder P hr h.info h.locked hj hlost habs returnList hres)

/-- **What one step does to the count.** -/
theorem missing_step {sent : List Message} {m : Major} {r : D} {o : ℕ} {t : Threads D}
    (hr : m.tolerance < |100 - r|) (h : Missing sent m r o t) {l : Label}
    (hmode : ∀ info, l = .mode_check info → info = 1)
    (hres : ∀ res ∈ t.parse_events l, ¬ Heard m res) :
    Missing sent m r (o + others m t l) (t.step P l) := by
  have hguarded := guarded_step P h.toGuarded hmode
  cases l with
  | mode_check info => exact ⟨hguarded, h.progress⟩
  | beacon_finder returnList => exact missing_beacon_finder P hr h returnList hres
  | beacon_condition =>
    obtain ⟨hfinder, hpc⟩ := t.beacon_condition_frame
    have hprogress := h.progress
    rw [← hfinder] at hprogress
    refine ⟨hguarded, ?_⟩
    rcases hprogress with hpub | hdue | ⟨j, hj, hlost, habs⟩
    · exact Or.inl (hpub.mono (beacon_condition_effect t).sent_grows)
    · rw [← hpc] at hdue
      exact Or.inr (Or.inl hdue)
    · refine Or.inr (Or.inr ⟨j, hj, hlost, ?_⟩)
      unfold Absent at habs ⊢
      rw [← hpc] at habs
      exact habs

omit [IsStrictOrderedRing D] in
/-- While `stolen` is not published, forty such results are all there can be. -/
theorem Missing.published {sent : List Message} {m : Major} {r : D} {o : ℕ} {t : Threads D}
    (h : Missing sent m r o t) (ho : 40 < o) : PublishedSince sent t := by
  rcases h.progress with hpub | ⟨w, -, -, hle⟩ | ⟨j, hj, -, habs⟩
  · exact hpub
  · omega
  · exfalso
    unfold Absent at habs
    split at habs <;> omega

/-- **What a whole run does to the count.** -/
theorem missing_run {sent : List Message} {m : Major} {r : D} {t : Threads D}
    (hr : m.tolerance < |100 - r|) (h : Missing sent m r 0 t) {labels : List Label}
    (hmode : ∀ info, .mode_check info ∈ labels → info = 1)
    (hres : ∀ res ∈ consumed P t labels, ¬ Heard m res) :
    Missing sent m r ((consumed P t labels).countP fun res => Heard m.other res)
      (run (step P) t labels) := by
  induction labels using List.reverseRecOn with
  | nil => exact h
  | append_singleton labels l ih =>
    unfold consumed at hres ih ⊢
    rw [emitted_concat] at hres ⊢
    rw [List.countP_append, run_concat]
    have ih' := ih (fun info hin => hmode info (List.mem_append_left _ hin))
      (fun res hin => hres res (List.mem_append_left _ hin))
    refine missing_step P hr ih' ?_ (fun res hin => hres res (List.mem_append_right _ hin))
    intro info hl
    exact hmode info (List.mem_append_right _ (by rw [hl]; exact List.mem_singleton_self _))

/-! ## The lock -/

/-- The finder is about to take, from the sample `s`, the decision that locks. -/
structure Locks (t : Threads D) (s : Sample) : Prop where
  pc : t.finder_pc = .post s
  info : t.shared.info = some 1
  count_1 : t.finder.count_1 = 0

/-- The decision that locks starts a guarded session. -/
theorem guarded_lock {labels : List Label} {s : Sample}
    (h : Locks (run (step P) (init : Threads D) labels) s)
    (hlocked : (s.measure P).locked = (s.measure P).nearer) (returnList : List Beacon) :
    Guarded (run (step P) (init : Threads D) labels).shared.sent (s.measure P).nearer
      ((s.measure P).dist (s.measure P).nearer)
      ((run (step P) (init : Threads D) labels).step P (.beacon_finder returnList)) := by
  have howned := Runs.invariant (owned_step P) owned_init labels
  have hfresh := fresh_of_count_1 P labels h.count_1
  obtain ⟨hl, -, acts, hacts, -⟩ := BeaconFinder.decision_fresh hfresh (s.measure P)
  rw [hlocked] at hl
  generalize run (step P) (init : Threads D) labels = t at h howned hl hacts ⊢
  have ht : t.step P (.beacon_finder returnList) = { t with
      finder_pc := .acting (.start (t.finder.decision (s.measure P)).2)
      finder := (t.finder.decision (s.measure P)).1 } := by
    simp only [step, beacon_finder, h.pc, h.info, Option.some.injEq, one_ne_zero, if_false]
  have heffect := beacon_finder_effect P t returnList
  change Effect _ _ (t.step P (.beacon_finder returnList)) at heffect
  have howned' := heffect.owned howned
  rw [ht] at howned' ⊢
  refine ⟨⟨howned', List.prefix_rfl, fun _ => Or.inr ?_, ?_⟩, h.info, hl⟩
  · -- the publication of `safe` is due
    left; left
    exact ⟨rfl, acts, hacts⟩
  · intro hsent
    simp [writer, Writer.start] at hsent

/-- **A beacon that disappears is noticed where the other one is heard.** After a
lock on `b` with a reference that is not within the tolerance of `100.0`, a stretch
of results without `b`, forty-one of which contain the other beacon, is not consumed
before `stolen` is published. -/
theorem theft_noticed (labels : List Label) (s : Sample)
    (hlock : Locks (run (step P) (init : Threads D) labels) s) (b : Major)
    (hb : b = (s.measure P).nearer) (hr : b.tolerance < |100 - (s.measure P).dist b|)
    (returnList : List Beacon) (after : List Label)
    (hmode : ∀ info, .mode_check info ∈ after → info = 1) (pre win : List (List Beacon))
    (hwin : consumed P (run (step P) (init : Threads D) labels)
      (.beacon_finder returnList :: after) = pre ++ win)
    (habsent : ∀ res ∈ win, ¬ Heard b res)
    (hother : 41 ≤ win.countP fun res => Heard b.other res) :
    PublishedSince (run (step P) (init : Threads D) labels).shared.sent
      (run (step P) (init : Threads D) (labels ++ .beacon_finder returnList :: after)) := by
  subst hb
  have hne : (s.measure P).dist (s.measure P).nearer ≠ 100 := by
    intro h100
    rw [h100, sub_self, abs_zero] at hr
    have htol : (0 : D) < (s.measure P).nearer.tolerance := by
      cases (s.measure P).nearer <;> simp only [Major.tolerance] <;> norm_num
    exact absurd hr (not_lt.mpr htol.le)
  have hguarded := guarded_lock P hlock (Measured.locked_eq_nearer hne) returnList
  rw [run_append, run_cons]
  have hnone : (run (step P) (init : Threads D) labels).parse_events (.beacon_finder returnList)
      = [] := by
    simp only [parse_events, hlock.pc]
  unfold consumed at hwin
  rw [emitted_cons, hnone, List.nil_append] at hwin
  obtain ⟨after₁, after₂, rfl, -, rfl⟩ := emitted_split parse_events_length hwin
  have hmode₁ : ∀ l ∈ after₁, ∀ info, l = .mode_check info → info = 1 := by
    rintro l hl info rfl
    exact hmode info (List.mem_append_left _ hl)
  have hbefore := Steps.invariant (fun t l => guarded_step P (t := t) (l := l))
    ((steps_label_iff _ after₁).mpr hmode₁) hguarded
  rw [run_append]
  exact (missing_run P hr hbefore.missing
    (fun info hin => hmode info (List.mem_append_right _ hin)) habsent).published hother

/-! ## Silence -/

/-- A result without either beacon is consumed and changes nothing. -/
theorem silent_results {t : Threads D} {s : Sample} (hpc : t.finder_pc = .sampling s)
    (hopen : s.Open) (n : ℕ) :
    run (step P) t (List.replicate (2 * n) (.beacon_finder [])) = t ∧
      consumed P t (List.replicate (2 * n) (.beacon_finder [])) = List.replicate n [] := by
  have hlisten : t.step P (.beacon_finder []) = { t with finder_pc := .listening s [] } := by
    simp only [step, beacon_finder, hpc]
  have hback : (t.step P (.beacon_finder [])).step P (.beacon_finder []) = t := by
    rw [hlisten]
    simp only [step, beacon_finder, if_pos hopen]
    rw [← hpc]
  have hone : t.parse_events (.beacon_finder []) = [[]] := by simp only [parse_events, hpc]
  have hnone : (t.step P (.beacon_finder [])).parse_events (.beacon_finder []) = [] := by
    rw [hlisten]
    rfl
  unfold consumed at *
  induction n with
  | zero => exact ⟨rfl, rfl⟩
  | succ n ih =>
    rw [show 2 * (n + 1) = 2 * n + 1 + 1 by ring, List.replicate_succ, List.replicate_succ,
      List.replicate_succ, run_cons, run_cons, emitted_cons, emitted_cons, hback, hone, hnone]
    refine ⟨ih.1, ?_⟩
    rw [ih.2]
    rfl

/-- The sample of `heard_39`. -/
def sample_39 : Sample := ⟨-590, 10, 0, 0, -59⟩

theorem locks_heard_39 : Locks (run (step Power.floor) init heard_39) sample_39 := by
  constructor <;> decide +kernel

/-- `39` is locked at one metre and disappears while `234` is heard once in every
result. -/
theorem theft_noticed_after_lock_on_39 :
    PublishedSince (run (step Power.floor) init heard_39).shared.sent
      (run (step Power.floor) init
        (heard_39 ++ .beacon_finder [] :: (List.replicate 6 (.beacon_finder []) ++
          List.replicate 160 (.beacon_finder [⟨234, -59, -59⟩])))) := by
  refine theft_noticed Power.floor heard_39 sample_39 locks_heard_39 .m39 ?_ ?_ [] _ ?_ [] _ rfl
    ?_ ?_
  · decide +kernel
  · decide +kernel
  · intro info hin
    rcases List.mem_append.mp hin with h | h <;> simpa using List.eq_of_mem_replicate h
  · decide +kernel
  · decide +kernel

/-- Without either beacon the finder consumes any number of results and publishes
nothing: no bound holds. -/
theorem theft_unnoticed_in_silence :
    ¬ ∃ B, ∀ (labels : List Label) (s : Sample),
      Locks (run (step Power.floor) init labels) s → ∀ b, b = (s.measure Power.floor).nearer →
      ∀ (returnList : List Beacon) (after : List Label),
      (∀ info, .mode_check info ∈ after → info = 1) → ∀ pre win : List (List Beacon),
      consumed Power.floor (run (step Power.floor) init labels)
        (.beacon_finder returnList :: after) = pre ++ win →
      (∀ res ∈ win, ¬ Heard b res) → B ≤ win.length →
      PublishedSince (run (step Power.floor) init labels).shared.sent
        (run (step Power.floor) init (labels ++ .beacon_finder returnList :: after)) := by
  rintro ⟨B, hB⟩
  -- lock on `39`, publish, and start the next round
  obtain ⟨t, ht⟩ : ∃ t, run (step Power.floor) init
      (heard_39 ++ List.replicate 7 (.beacon_finder [])) = t := ⟨_, rfl⟩
  have hpc : t.finder_pc = .sampling .init := by
    rw [← ht]
    decide +kernel
  have hsent : t.shared.sent = [.parking_state .safe, .parking_location .m39] := by
    rw [← ht]
    decide +kernel
  obtain ⟨hrun, hcons⟩ := silent_results Power.floor hpc (by decide) B
  have hafter := hB heard_39 sample_39 locks_heard_39 .m39 (by decide +kernel) []
    (List.replicate 6 (.beacon_finder []) ++ List.replicate (2 * B) (.beacon_finder []))
    ?_ [] (List.replicate B []) ?_ (by simp [Heard]) (by simp)
  · obtain ⟨new, hnew, hmem⟩ := hafter
    have hend : run (step Power.floor) init (heard_39 ++ .beacon_finder [] ::
        (List.replicate 6 (.beacon_finder []) ++ List.replicate (2 * B) (.beacon_finder [])))
        = t := by
      rw [← List.cons_append, ← List.append_assoc, run_append]
      change run _ (run _ _ (heard_39 ++ List.replicate 7 _)) _ = t
      rw [ht, hrun]
    have hbefore : (run (step Power.floor) (init : Threads ℚ) heard_39).shared.sent = [] := by
      decide +kernel
    rw [hend, hsent, hbefore, List.nil_append] at hnew
    rw [← hnew] at hmem
    simp at hmem
  · intro info hin
    rcases List.mem_append.mp hin with h | h <;> simpa using List.eq_of_mem_replicate h
  · unfold consumed
    rw [← List.cons_append, emitted_append]
    have hnone : emitted (step Power.floor) parse_events (run (step Power.floor) init heard_39)
        (.beacon_finder [] :: List.replicate 6 (.beacon_finder [])) = [] := by
      decide +kernel
    have hmid : run (step Power.floor) (run (step Power.floor) init heard_39)
        (.beacon_finder [] :: List.replicate 6 (.beacon_finder [])) = t := by
      rw [← run_append]
      exact ht
    rw [hnone, hmid, List.nil_append, List.nil_append]
    exact hcons

end Threads

end SmartBike.Parking
