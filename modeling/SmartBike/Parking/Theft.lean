/-
The theft decision of `BeaconFinder.run` over whole runs: when a round reaches the
alarm branch, against the three-round confirmation the counters are there for.

A run is a list of `Iteration`s, the passes of `while True` by what they saw. The
rounds of the current session are a history beside the thread's state (`session`),
and what ties the two together is the invariant `Tracks`: the counter of the
locked beacon is the length of the current streak of rounds away from the
reference, cut off at two. It holds as long as every session starts with that
counter at zero, which the deactivation branch does not see to.
-/
import SmartBike.Lib.Run
import SmartBike.Parking.BeaconFinder

set_option autoImplicit false

open Runs

namespace SmartBike.Parking

variable {D : Type*} [Field D] [LinearOrder D]

/-! ## Iterations and sessions -/

/-- One pass of `while True`. -/
inductive Iteration (D : Type*) [Field D] [LinearOrder D] where
  -- line 119 does not read `1`: the deactivation branch
  | deactivate
  -- line 151 reads `0`: the sample is dropped
  | interrupted
  -- the sample is decided on
  | round (d : Measured D)

/-- What a pass does to the locals. -/
def BeaconFinder.iterate (st : BeaconFinder D) : Iteration D → BeaconFinder D
  | .deactivate => st.deactivate
  | .interrupted => st
  | .round d => (st.decision d).1

/-- What a pass does to the rounds of the current session, latest first. -/
def record (h : List (Measured D)) : Iteration D → List (Measured D)
  | .deactivate => []
  | .interrupted => h
  | .round d => d :: h

/-- The rounds of the session a run is in, latest first. -/
def session (its : List (Iteration D)) : List (Measured D) := run record [] its

/-- The round reaches the alarm branch: `stolen` is published and the buzzer goes on. -/
def Alarm (st : BeaconFinder D) (d : Measured D) : Prop :=
  .publish .stolen ∈ (st.decision d).2 ∧ .output true ∈ (st.decision d).2

instance (st : BeaconFinder D) (d : Measured D) : Decidable (Alarm st d) :=
  inferInstanceAs (Decidable (_ ∧ _))

/-! ## The three-round confirmation -/

/-- In a session that locked on round `l`, round `d` is away from the reference. -/
def Away (l d : Measured D) : Prop :=
  l.nearer.tolerance < |d.dist l.nearer - l.dist l.nearer|

instance (l d : Measured D) : Decidable (Away l d) := inferInstanceAs (Decidable (_ < _))

/-- The latest round of the session and the two before it are away from the
reference, and all three come after the round that locked. -/
def Confirmed (h : List (Measured D)) : Prop :=
  ∃ a b c rest l, h = a :: b :: c :: rest ∧ rest.getLast? = some l ∧
    Away l a ∧ Away l b ∧ Away l c

/-- The number of latest rounds that are all away from the reference. -/
def streak (l : Measured D) : List (Measured D) → ℕ
  | [] => 0
  | d :: after => if Away l d then streak l after + 1 else 0

theorem two_le_streak_iff (l : Measured D) (after : List (Measured D)) :
    2 ≤ streak l after ↔ ∃ b c rest, after = b :: c :: rest ∧ Away l b ∧ Away l c := by
  match after with
  | [] => simp [streak]
  | [b] =>
    simp only [streak, List.cons.injEq, reduceCtorEq, and_false, false_and, exists_false, iff_false]
    split_ifs <;> omega
  | b :: c :: rest =>
    simp only [streak, List.cons.injEq]
    constructor
    · intro h
      split_ifs at h with hb hc
      · exact ⟨b, c, rest, ⟨rfl, rfl, rfl⟩, hb, hc⟩
      · omega
      · omega
    · rintro ⟨b', c', rest', ⟨rfl, rfl, rfl⟩, hb, hc⟩
      rw [if_pos hb, if_pos hc]
      omega

/-- A session whose first round is `l` is confirmed by a round `d` when `d` is away
and the streak before it is at least two. -/
theorem confirmed_iff (l d : Measured D) (after : List (Measured D)) :
    Confirmed (d :: (after ++ [l])) ↔ Away l d ∧ 2 ≤ streak l after := by
  rw [two_le_streak_iff]
  constructor
  · rintro ⟨a, b, c, rest, l', heq, hlast, ha, hb, hc⟩
    obtain ⟨rfl, heq⟩ := List.cons.inj heq
    have hl : l' = l := by
      have h := congrArg List.getLast? heq
      simp only [List.getLast?_concat, List.getLast?_cons, hlast, Option.getD_some] at h
      simpa using h.symm
    subst hl
    -- the list after `b` and `c` is not empty, so both are among `after`
    obtain ⟨rest', rfl⟩ := List.getLast?_eq_some_iff.mp hlast
    have hafter : after = b :: c :: rest' := by
      have h : after ++ [l'] = (b :: c :: rest') ++ [l'] := by simpa using heq
      exact List.append_cancel_right h
    exact ⟨ha, b, c, rest', hafter, hb, hc⟩
  · rintro ⟨ha, b, c, rest, rfl, hb, hc⟩
    exact ⟨d, b, c, rest ++ [l], l, by simp, by simp, ha, hb, hc⟩

/-- The lock round is never confirmed. -/
theorem not_confirmed_singleton (d : Measured D) : ¬ Confirmed [d] := by
  rintro ⟨a, b, c, rest, l, h, -⟩
  simp at h

/-! ## What a verdict means for the alarm -/

theorem verdict_eq_stolen_iff {t r x : D} (hr : 0 < r) (n : ℕ) :
    verdict t r x n = .stolen ↔ t < |x - r| ∧ 2 ≤ n := by
  simp only [verdict, if_neg hr.ne']
  split_ifs with h1 h2
  · simp [h1]; omega
  · simp [h1]; omega
  · simp [h1]

theorem verdict_count {t r x : D} (hr : 0 < r) (n : ℕ) :
    (verdict t r x n).count n = if t < |x - r| then (if 2 ≤ n then n else n + 1) else 0 := by
  simp only [verdict, if_neg hr.ne']
  by_cases h1 : t < |x - r|
  · by_cases h2 : 1 < n
    · rw [if_pos h1, if_pos h2, if_pos h1, if_pos (by omega)]; rfl
    · rw [if_pos h1, if_neg h2, if_pos h1, if_neg (by omega)]; rfl
  · rw [if_neg h1, if_neg h1]; rfl

/-- In a locked session the alarm is reached exactly by an away round that finds
the counter at two or more. -/
theorem alarm_locked {st : BeaconFinder D} {m : Major} {r : D} (h : st.Locked m r)
    (d : Measured D) :
    Alarm st d ↔ m.tolerance < |d.dist m - r| ∧ 2 ≤ st.beacon_lost m := by
  obtain ⟨-, -, hacts⟩ := BeaconFinder.decision_locked h d
  rw [← verdict_eq_stolen_iff h.pos]
  generalize verdict m.tolerance r (d.dist m) (st.beacon_lost m) = v at hacts ⊢
  unfold Alarm
  cases v <;> rcases hacts with ha | ha <;> simp [ha, Verdict.acts]

/-! ## The invariant -/

/-- The condition under which a session starts well: the counter of the beacon the
first decision locks on is zero, and a `234` reference is not the marker `100.0`. -/
def Clean (st : BeaconFinder D) : Iteration D → Prop
  | .round d => st.count_1 = 0 →
      st.beacon_lost d.nearer = 0 ∧ ¬ d.Collides
  | _ => True

theorem locked_eq_nearer_iff (d : Measured D) : d.locked = d.nearer ↔ ¬ d.Collides := by
  unfold Measured.locked Measured.Collides
  split_ifs with h
  · rw [h.1]
    simp [h.2]
  · simp [h]

/-- The locals against the rounds of the session: nothing is locked before the
first one, and after it the counter is the streak, cut off at two. -/
def Tracks (h : List (Measured D)) (st : BeaconFinder D) : Prop :=
  (h = [] ∧ st.Fresh) ∨
    ∃ l after, h = after ++ [l] ∧ st.Locked l.nearer (l.dist l.nearer) ∧
      st.beacon_lost l.nearer = min 2 (streak l after)

/-- The counter after a later round, against the streak after it. -/
theorem count_eq_streak {l d : Measured D} {after : List (Measured D)} {n : ℕ}
    (hr : 0 < l.dist l.nearer) (hn : n = min 2 (streak l after)) :
    (verdict l.nearer.tolerance (l.dist l.nearer) (d.dist l.nearer) n).count n
      = min 2 (streak l (d :: after)) := by
  rw [verdict_count hr]
  by_cases haway : Away l d
  · have h : l.nearer.tolerance < |d.dist l.nearer - l.dist l.nearer| := haway
    rw [if_pos h, streak, if_pos haway]
    split_ifs <;> omega
  · have h : ¬ l.nearer.tolerance < |d.dist l.nearer - l.dist l.nearer| := haway
    rw [if_neg h, streak, if_neg haway]
    rfl

theorem tracks_round_locked {st : BeaconFinder D} {l : Measured D} {after : List (Measured D)}
    (hl : st.Locked l.nearer (l.dist l.nearer))
    (hn : st.beacon_lost l.nearer = min 2 (streak l after)) (d : Measured D) :
    Tracks (d :: (after ++ [l])) (st.decision d).1 := by
  obtain ⟨hlock, hcount, -⟩ := BeaconFinder.decision_locked hl d
  refine Or.inr ⟨l, d :: after, rfl, hlock, ?_⟩
  rw [hcount]
  exact count_eq_streak hl.pos hn

section Ordered

variable [IsStrictOrderedRing D]

/-- **What one pass preserves.** -/
theorem tracks_iterate {h : List (Measured D)} {st : BeaconFinder D} (ht : Tracks h st)
    (it : Iteration D) (hc : Clean st it) : Tracks (record h it) (st.iterate it) := by
  cases it with
  | deactivate => exact Or.inl ⟨rfl, st.fresh_deactivate⟩
  | interrupted => exact ht
  | round d =>
    rcases ht with ⟨rfl, hf⟩ | ⟨l, after, rfl, hl, hn⟩
    · -- the round that locks: the streak is empty, and so must the counter be
      obtain ⟨hlock, hcount, -⟩ := BeaconFinder.decision_fresh hf d
      obtain ⟨h0, hne⟩ := hc hf.count_1
      rw [(locked_eq_nearer_iff d).mpr hne] at hlock
      refine Or.inr ⟨d, [], rfl, hlock, ?_⟩
      exact (hcount d.nearer).trans h0
    · exact tracks_round_locked hl hn d

/-- **What a whole run preserves**, when its sessions start clean. -/
theorem tracks_run {its : List (Iteration D)}
    (hc : Steps BeaconFinder.iterate Clean BeaconFinder.init its) :
    Tracks (session its) (run BeaconFinder.iterate BeaconFinder.init its) := by
  induction its using List.reverseRecOn with
  | nil => exact Or.inl ⟨rfl, BeaconFinder.fresh_init⟩
  | append_singleton its it ih =>
    rw [steps_concat] at hc
    rw [session, run_concat, run_concat]
    exact tracks_iterate (ih hc.1) it hc.2

omit [IsStrictOrderedRing D] in
/-- At the start of a session nothing is locked, whatever happened before. -/
theorem fresh_of_session_nil {its : List (Iteration D)} (h : session its = []) :
    (run BeaconFinder.iterate BeaconFinder.init its).Fresh := by
  induction its using List.reverseRecOn with
  | nil => exact BeaconFinder.fresh_init
  | append_singleton its it ih =>
    rw [session, run_concat] at h
    rw [run_concat]
    cases it with
    | deactivate => exact BeaconFinder.fresh_deactivate _
    | interrupted => exact ih h
    | round d => simp [record] at h

/-- Something is locked, or the locals are as the start of the program and the
deactivation branch leave them. -/
theorem fresh_or_locked_run (its : List (Iteration D)) :
    (run BeaconFinder.iterate (BeaconFinder.init : BeaconFinder D) its).Fresh ∨
      ∃ m r, (run BeaconFinder.iterate (BeaconFinder.init : BeaconFinder D) its).Locked m r := by
  induction its using List.reverseRecOn with
  | nil => exact Or.inl BeaconFinder.fresh_init
  | append_singleton its it ih =>
    rw [run_concat]
    cases it with
    | deactivate => exact Or.inl (BeaconFinder.fresh_deactivate _)
    | interrupted => exact ih
    | round d =>
      right
      rcases ih with hfresh | ⟨m, r, hl⟩
      · exact ⟨_, _, (BeaconFinder.decision_fresh hfresh d).1⟩
      · exact ⟨m, r, (BeaconFinder.decision_locked hl d).1⟩

/-- The round that locks never alarms. -/
theorem not_alarm_fresh {st : BeaconFinder D} (h : st.Fresh) (d : Measured D) :
    ¬ Alarm st d := by
  obtain ⟨-, -, acts, ha, hloc⟩ := BeaconFinder.decision_fresh h d
  rintro ⟨hmem, -⟩
  rw [ha] at hmem
  rcases List.mem_cons.mp hmem with heq | hin
  · simp at heq
  · simpa using hloc _ hin

/-- In a tracked state the alarm is reached exactly by the third away round. -/
theorem alarm_iff_confirmed_of_tracks {h : List (Measured D)} {st : BeaconFinder D}
    (ht : Tracks h st) (d : Measured D) : Alarm st d ↔ Confirmed (d :: h) := by
  rcases ht with ⟨rfl, hf⟩ | ⟨l, after, rfl, hl, hn⟩
  · exact iff_of_false (not_alarm_fresh hf d) (not_confirmed_singleton d)
  · have h2 : 2 ≤ min 2 (streak l after) ↔ 2 ≤ streak l after := by omega
    rw [confirmed_iff, alarm_locked hl, hn, h2]
    rfl

/-! ## A session that does not start clean -/

/-- A counter carried into the session shortens its confirmation: some later round
alarms although fewer than three rounds have passed since the lock. -/
theorem carried_counter_alarms {st : BeaconFinder D} (hf : st.Fresh) {d : Measured D}
    (hlock : d.locked = d.nearer) (hne : st.beacon_lost d.nearer ≠ 0) :
    ∃ (ds : List (Measured D)) (e : Measured D),
      Alarm (run BeaconFinder.iterate st (.round d :: ds.map .round)) e ∧
      ¬ Confirmed (e :: (ds.reverse ++ [d])) := by
  obtain ⟨hl, hcount, -⟩ := BeaconFinder.decision_fresh hf d
  rw [hlock] at hl
  -- a distance that is away from the reference for either beacon
  have hpos := d.dist_pos d.nearer
  have htol : (0 : D) < d.nearer.tolerance := by
    cases d.nearer <;> simp only [Major.tolerance] <;> norm_num
  let e : Measured D :=
    ⟨d.dist d.nearer + d.nearer.tolerance + 1, d.dist d.nearer + d.nearer.tolerance + 1,
      by linarith, by linarith⟩
  have he : ∀ m, e.dist m = d.dist d.nearer + d.nearer.tolerance + 1 := by
    intro m
    cases m <;> rfl
  have haway : d.nearer.tolerance < |e.dist d.nearer - d.dist d.nearer| := by
    rw [he, show d.dist d.nearer + d.nearer.tolerance + 1 - d.dist d.nearer
      = d.nearer.tolerance + 1 by ring, abs_of_pos (by linarith)]
    linarith
  by_cases h2 : 2 ≤ st.beacon_lost d.nearer
  · refine ⟨[], e, ?_, ?_⟩
    · exact (alarm_locked hl e).mpr ⟨haway, by rw [hcount]; exact h2⟩
    · rw [List.reverse_nil, confirmed_iff]
      simp [streak]
  · obtain ⟨hl', hcount', -⟩ := BeaconFinder.decision_locked hl e
    have hlost : st.beacon_lost d.nearer = 1 := by omega
    refine ⟨[e], e, ?_, ?_⟩
    · refine (alarm_locked hl' e).mpr ⟨haway, ?_⟩
      rw [hcount', verdict_count hpos, hcount, hlost, if_pos haway]
      norm_num
    · rw [List.reverse_singleton, confirmed_iff]
      simp only [streak]
      split_ifs <;> omega

/-- A `234` reference of `100.0` sends the session into the branch of `39`: rounds
away from the reference are not counted at all. -/
theorem collided_reference_silent {st : BeaconFinder D} (hf : st.Fresh) {d : Measured D}
    (hlock : d.locked ≠ d.nearer) :
    ∃ (ds : List (Measured D)) (e : Measured D),
      ¬ Alarm (run BeaconFinder.iterate st (.round d :: ds.map .round)) e ∧
      Confirmed (e :: (ds.reverse ++ [d])) := by
  obtain ⟨hn, h2⟩ : d.Collides := by
    by_contra h
    exact hlock ((locked_eq_nearer_iff d).mpr h)
  obtain ⟨hl, -, -⟩ := BeaconFinder.decision_fresh hf d
  have hr : d.dist d.nearer = 100 := by rw [hn]; exact h2
  rw [show d.locked = .m39 from if_pos ⟨hn, h2⟩, hr] at hl
  -- `39` stays where its marker is, `234` is gone
  let e : Measured D := ⟨100, 200, by norm_num, by norm_num⟩
  have hquiet : ∀ st' : BeaconFinder D, st'.Locked .m39 100 → ¬ Alarm st' e := by
    intro st' h' ha
    have h := ((alarm_locked h' e).mp ha).1
    simp only [e, Measured.dist, Major.tolerance, sub_self, abs_zero] at h
    norm_num at h
  have haway : Away d e := by
    unfold Away
    rw [hr, hn]
    simp only [e, Measured.dist, Major.tolerance]
    norm_num
  have hl1 := (BeaconFinder.decision_locked hl e).1
  have hl2 := (BeaconFinder.decision_locked hl1 e).1
  refine ⟨[e, e], e, hquiet _ hl2, ?_⟩
  exact (confirmed_iff d e [e, e]).mpr ⟨haway, by simp [streak, haway]⟩

/-! ## The theft decision -/

omit [IsStrictOrderedRing D] in
theorem session_round (pre : List (Iteration D)) (h : session pre = []) (d : Measured D)
    (ds : List (Measured D)) :
    session (pre ++ .round d :: ds.map .round) = ds.reverse ++ [d] := by
  have hrun : ∀ (acc : List (Measured D)), run record acc (ds.map .round) = ds.reverse ++ acc := by
    induction ds with
    | nil => intro acc; rfl
    | cons e ds ih =>
      intro acc
      rw [List.map_cons, run_cons, ih, record, List.reverse_cons, List.append_assoc]
      rfl
  unfold session at h ⊢
  rw [run_append, h, run_cons, hrun]
  rfl

/-- From a clean first decision on, a session is tracked until it is deactivated. -/
theorem tracks_session {pre : List (Iteration D)} (h : session pre = []) {d : Measured D}
    (hc : Clean (run BeaconFinder.iterate BeaconFinder.init pre) (.round d))
    {its : List (Iteration D)} (hits : Iteration.deactivate ∉ its) :
    session (pre ++ .round d :: its) ≠ [] ∧
      Tracks (session (pre ++ .round d :: its))
        (run BeaconFinder.iterate BeaconFinder.init (pre ++ .round d :: its)) := by
  induction its using List.reverseRecOn with
  | nil =>
    have ht : Tracks (session pre) (run BeaconFinder.iterate BeaconFinder.init pre) :=
      Or.inl ⟨h, fresh_of_session_nil h⟩
    rw [session, run_concat, run_concat]
    exact ⟨by simp [record], tracks_iterate ht _ hc⟩
  | append_singleton its it ih =>
    rw [List.mem_append, not_or] at hits
    obtain ⟨hne, ht⟩ := ih hits.1
    rw [← List.cons_append, ← List.append_assoc, session, run_concat, run_concat]
    -- the session has started, so no later round finds `count_1` at zero
    have hlocked : (run BeaconFinder.iterate BeaconFinder.init
        (pre ++ .round d :: its)).count_1 ≠ 0 := by
      rcases ht with ⟨hnil, -⟩ | ⟨l, after, -, hl, -⟩
      · exact absurd hnil hne
      · exact hl.count_1
    have hclean : Clean (run BeaconFinder.iterate BeaconFinder.init (pre ++ .round d :: its)) it := by
      cases it with
      | deactivate => trivial
      | interrupted => trivial
      | round e => exact fun h0 => absurd h0 hlocked
    refine ⟨?_, tracks_iterate ht it hclean⟩
    cases it with
    | deactivate => simp at hits
    | interrupted => exact hne
    | round e => simp [record]

/-- **The theft decision.** In a run whose sessions all start clean, a round reaches
the alarm branch exactly when it and the two rounds before it, all after the lock of
its session, are away from the reference. And no session does better: all its
later rounds are decided so, whatever they measure, only if it starts clean. -/
theorem alarm_iff_confirmed :
    (∀ its : List (Iteration D), Steps BeaconFinder.iterate Clean BeaconFinder.init its →
      ∀ pre d post, its = pre ++ .round d :: post →
        (Alarm (run BeaconFinder.iterate BeaconFinder.init pre) d ↔
          Confirmed (d :: session pre))) ∧
    (∀ (pre : List (Iteration D)) (d : Measured D), session pre = [] →
      ((∀ its, Iteration.deactivate ∉ its → ∀ e,
          (Alarm (run BeaconFinder.iterate BeaconFinder.init (pre ++ .round d :: its)) e ↔
            Confirmed (e :: session (pre ++ .round d :: its)))) ↔
        Clean (run BeaconFinder.iterate BeaconFinder.init pre) (.round d))) := by
  constructor
  · rintro its hc pre d post rfl
    rw [steps_append] at hc
    exact alarm_iff_confirmed_of_tracks (tracks_run hc.1) d
  · intro pre d h
    have hfresh := fresh_of_session_nil h
    constructor
    · intro hall _
      -- a session that does not start clean is told by one of its continuations
      have hlocked : d.locked = d.nearer := by
        by_contra hne
        obtain ⟨ds, e, hquiet, hconf⟩ := collided_reference_silent hfresh hne
        have := hall (ds.map .round) (by simp) e
        rw [session_round pre h, run_append] at this
        exact hquiet (this.mpr hconf)
      refine ⟨?_, (locked_eq_nearer_iff d).mp hlocked⟩
      by_contra hne
      obtain ⟨ds, e, halarm, hconf⟩ := carried_counter_alarms hfresh hlocked hne
      have := hall (ds.map .round) (by simp) e
      rw [session_round pre h, run_append] at this
      exact hconf (this.mp halarm)
    · intro hclean its hits e
      exact alarm_iff_confirmed_of_tracks (tracks_session h hclean hits).2 e

end Ordered

/-! ## A counter carried from one session to the next -/

section Carried

/-- `39` at one metre, `234` far away. -/
def near : Measured ℚ := ⟨1, 100, by norm_num, by norm_num⟩

/-- `39` at ten metres. -/
def away : Measured ℚ := ⟨10, 100, by norm_num, by norm_num⟩

/-- A clean session with a theft: the third away round after the lock alarms. -/
theorem alarm_iff_confirmed_clean_session :
    Alarm (run BeaconFinder.iterate BeaconFinder.init
        [.round near, .round away, .round away]) away ∧
      Confirmed [away, away, away, near] := by
  have h := ((alarm_iff_confirmed (D := ℚ)).2 [] near rfl).mpr
    (fun _ => ⟨rfl, by decide⟩) [.round away, .round away] (by simp) away
  have halarm : Alarm (run BeaconFinder.iterate BeaconFinder.init
      [.round near, .round away, .round away]) away := by
    decide +kernel
  exact ⟨halarm, h.mp halarm⟩

/-- Two away rounds in one session, a deactivation, and the first away round of the
next session already alarms. -/
theorem alarm_without_confirmation :
    ¬ (Alarm (run BeaconFinder.iterate BeaconFinder.init
          [.round near, .round away, .round away, .deactivate, .round near]) away ↔
        Confirmed (away :: session
          [.round near, .round away, .round away, .deactivate, .round near])) := by
  have halarm : Alarm (run BeaconFinder.iterate BeaconFinder.init
      [.round near, .round away, .round away, .deactivate, .round near]) away := by
    decide +kernel
  have hsession : session [.round near, .round away, .round away, .deactivate, .round near]
      = [near] := rfl
  rw [hsession]
  rintro ⟨h, -⟩
  obtain ⟨a, b, c, rest, l, heq, -⟩ := h halarm
  simp at heq

end Carried

end SmartBike.Parking
