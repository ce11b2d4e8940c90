/-
Which reference a decision uses: the one of its own parking session, or one that an
earlier session has left.

A session is what follows a change of the mode to `1`. The lock and the reference of
the session before are dropped in the deactivation branch only, which runs when the
test of line 119 meets another mode. The test of line 151 drops the sample and keeps
the lock, and while the finder samples a mode of `0` is not met at all. So what
decides is `count_1` at the change: where it is `0`, every later decision uses a lock
taken since (`Dated`); where it is not, some later decision does not
(`old_reference_used`).
-/
import SmartBike.Parking.Threads

set_option autoImplicit false

open Runs

namespace SmartBike.Parking

namespace Threads

variable {D : Type*} [Field D] [LinearOrder D]

/-! ## Changes, samples and locks -/

/-- The step changes the mode to `1`. -/
def Arms (t : Threads D) (l : Label) : Prop := l = .mode_check 1 ∧ t.shared.info ≠ some 1

instance (t : Threads D) (l : Label) : Decidable (t.Arms l) := inferInstanceAs (Decidable (_ ∧ _))

/-- The finder is about to begin a round: line 119 reads `1`. -/
def Begins (t : Threads D) : Prop := t.finder_pc = .outer ∧ t.shared.info = some 1

instance (t : Threads D) : Decidable t.Begins := inferInstanceAs (Decidable (_ ∧ _))

/-- Some advertisement of the sample in progress has already been received. -/
def Collected (t : Threads D) : Prop :=
  match t.finder_pc with
  | .sampling s => s ≠ .init
  | .listening s rest => s ≠ .init ∨ ∃ bea ∈ rest, bea.Accepted
  | .post _ => True
  | _ => False

section Runs

variable [IsStrictOrderedRing D] (P : Power D)

/-- The finder is about to take, on the sample `s`, a decision that asks for `safe`,
`stolen` or a location: line 151 does not read `0`. -/
def Decides (t : Threads D) (s : Sample) : Prop :=
  t.finder_pc = .post s ∧ t.shared.info ≠ some 0 ∧ (t.finder.decision (s.measure P)).2 ≠ []

instance (t : Threads D) (s : Sample) : Decidable (t.Decides P s) :=
  inferInstanceAs (Decidable (_ ∧ _ ∧ _))

/-- The sample in progress after the steps `ls` has been received during them: it was
empty before, or its round began since. -/
def SampledSince (t : Threads D) (ls : List Label) : Prop :=
  ¬ t.Collected ∨ ∃ ls₁ returnList ls₂, ls = ls₁ ++ .beacon_finder returnList :: ls₂ ∧
    (run (step P) t ls₁).Begins

/-- The distances a step locks with, if it takes a decision that finds `count_1` at
zero. -/
def locks (t : Threads D) : Label → List (Measured D)
  | .beacon_finder _ =>
    match t.finder_pc with
    | .post s =>
      if t.shared.info ≠ some 0 ∧ t.finder.count_1 = 0 then [s.measure P] else []
    | _ => []
  | _ => []

/-- After the steps `ls`, the locked beacon and the reference are those of a lock taken
during them. -/
def Dated (t : Threads D) (ls : List Label) : Prop :=
  ∃ d ∈ emitted (step P) (locks P) t ls,
    (run (step P) t ls).finder.Locked d.locked (d.dist d.nearer)

/-! ## A change that finds nothing locked -/

/-- **What one step does to the lock**: nothing is locked, or a lock taken since is in
force. -/
theorem dated_step {t : Threads D} {ls : List Label}
    (h : (run (step P) t ls).finder.Fresh ∨ Dated P t ls) (l : Label) :
    (run (step P) t (ls ++ [l])).finder.Fresh ∨ Dated P t (ls ++ [l]) := by
  -- a lock that stays in force was taken before the step
  have hkept : ∀ d ∈ emitted (step P) (locks P) t ls,
      d ∈ emitted (step P) (locks P) t (ls ++ [l]) := by
    intro d hd
    rw [emitted_concat]
    exact List.mem_append_left _ hd
  unfold Dated at h ⊢
  rw [run_concat]
  rcases finder_step P (run (step P) t ls) l with heq | heq | ⟨returnList, s, rfl, hpc, h0, heq⟩
  · rw [heq]
    exact h.imp_right fun ⟨d, hd, hl⟩ => ⟨d, hkept d hd, hl⟩
  · rw [heq]
    exact Or.inl (BeaconFinder.fresh_deactivate _)
  · rw [heq]
    right
    rcases h with hfresh | ⟨d, hd, hl⟩
    · -- the decision locks, and its own distances are the reference
      refine ⟨s.measure P, ?_, (BeaconFinder.decision_fresh hfresh _).1⟩
      rw [emitted_concat]
      apply List.mem_append_right
      simp only [locks, hpc]
      rw [if_pos ⟨h0, hfresh.count_1⟩]
      exact List.mem_singleton_self _
    · exact ⟨d, hkept d hd, (BeaconFinder.decision_locked hl _).1⟩

/-- **What a whole run does to the lock.** -/
theorem dated_run {t : Threads D} (h : t.finder.Fresh) (ls : List Label) :
    (run (step P) t ls).finder.Fresh ∨ Dated P t ls := by
  induction ls using List.reverseRecOn with
  | nil => exact Or.inl h
  | append_singleton ls l ih => exact dated_step P ih l

/-- A decision leaves something locked, so what it has used is dated. -/
theorem dated_of_decides {t : Threads D} (h : t.finder.Fresh) {ls : List Label} {s : Sample}
    (hd : (run (step P) t ls).Decides P s) (returnList : List Beacon) :
    Dated P t (ls ++ [.beacon_finder returnList]) := by
  have heq : (run (step P) t (ls ++ [.beacon_finder returnList])).finder
      = ((run (step P) t ls).finder.decision (s.measure P)).1 := by
    rw [run_concat]
    simp only [step, beacon_finder, hd.1, if_neg hd.2.1]
  rcases dated_run P h (ls ++ [.beacon_finder returnList]) with hfresh | hdated
  · exfalso
    rw [heq] at hfresh
    -- whatever was locked before, the decision has left something locked
    rcases dated_run P h ls with hfresh' | ⟨d, -, hl⟩
    · exact hfresh.not_locked (BeaconFinder.decision_fresh hfresh' _).1
    · exact hfresh.not_locked (BeaconFinder.decision_locked hl _).1
  · exact hdated

/-! ## A change that finds something locked -/

/-- The mode is `1` and something is locked. -/
def Held (m : Major) (r : D) (t : Threads D) : Prop :=
  t.shared.info = some 1 ∧ t.finder.Locked m r

variable {m : Major} {r : D}

/-- The finder alone keeps the lock and takes no new one. -/
theorem held_step {t : Threads D} (h : t.Held m r) (returnList : List Beacon) :
    (t.step P (.beacon_finder returnList)).Held m r ∧
      t.locks P (.beacon_finder returnList) = [] := by
  obtain ⟨hinfo, hl⟩ := h
  refine ⟨⟨(beacon_finder_effect P t returnList).info.trans hinfo,
    locked_beacon_finder P hinfo hl returnList⟩, ?_⟩
  unfold locks
  dsimp only
  split
  · exact if_neg fun hand => hl.count_1 hand.2
  · rfl

theorem held_run {t : Threads D} (h : t.Held m r) (returnList : List Beacon) (n : ℕ) :
    (run (step P) t (List.replicate n (.beacon_finder returnList))).Held m r ∧
      emitted (step P) (locks P) t (List.replicate n (.beacon_finder returnList)) = [] := by
  induction n generalizing t with
  | zero => exact ⟨h, rfl⟩
  | succ n ih =>
    obtain ⟨hstep, hnone⟩ := held_step P h returnList
    rw [List.replicate_succ, run_cons, emitted_cons, hnone, List.nil_append]
    exact ih hstep

/-- The finder alone, hearing `ten_near` whenever it asks, comes to a state with `Q`. -/
def Reaches (t : Threads D) (Q : Threads D → Prop) : Prop :=
  ∃ n, Q (run (step P) t (List.replicate n (.beacon_finder ten_near)))

theorem Reaches.one {t : Threads D} {Q : Threads D → Prop}
    (h : Q (t.step P (.beacon_finder ten_near))) : t.Reaches P Q := ⟨1, h⟩

theorem Reaches.trans {t : Threads D} (ht : t.Held m r) {Q R : Threads D → Prop}
    (h : t.Reaches P Q) (hQ : ∀ t' : Threads D, t'.Held m r → Q t' → t'.Reaches P R) :
    t.Reaches P R := by
  obtain ⟨n, hn⟩ := h
  obtain ⟨n', hn'⟩ := hQ _ (held_run P ht ten_near n).1 hn
  refine ⟨n + n', ?_⟩
  rw [List.replicate_add, run_append]
  exact hn'

/-- The accesses left in a publication. -/
def left (w : Writer) : ℕ :=
  3 * w.todo.length +
    match w.phase with
    | .idle => 0
    | .checked _ => 2
    | .sent _ => 1

omit [Field D] [LinearOrder D] [IsStrictOrderedRing D] in
theorem left_step {w : Writer} (h : ¬ w.Done) (sh : Shared) : left (w.step sh).1 < left w := by
  obtain ⟨phase, todo⟩ := w
  cases phase with
  | checked con => simp [left, Writer.step]
  | sent con => simp [left, Writer.step]
  | idle =>
    rcases todo with _ | ⟨act, rest⟩
    · exact absurd ⟨rfl, rfl⟩ h
    · cases act with
      | location m => simp [left, Writer.step]
      | output high => simp [left, Writer.step]
      | publish con =>
        simp only [left, Writer.step, List.length_cons]
        split_ifs <;> dsimp only <;> omega

/-- A publication ends. -/
theorem reaches_outer_of_acting {t : Threads D} (ht : t.Held m r) {w : Writer}
    (hpc : t.finder_pc = .acting w) :
    t.Reaches P fun t' => t'.finder_pc = .outer ∧ t'.finder = t.finder := by
  induction hn : left w using Nat.strong_induction_on generalizing t w with
  | _ n ih =>
    by_cases hdone : w.Done
    · apply Reaches.one
      simp only [step, beacon_finder, hpc, if_pos hdone, and_self]
    · have hone : t.Reaches P fun t' =>
          t'.finder_pc = .acting (w.step t.shared).1 ∧ t'.finder = t.finder := by
        apply Reaches.one
        simp only [step, beacon_finder, hpc, if_neg hdone, and_self]
      refine hone.trans P ht fun t' ht' hw => ?_
      rw [← hw.2]
      exact ih _ (hn ▸ left_step hdone t.shared) ht' hw.1 rfl

/-- A decision is carried out. -/
theorem reaches_outer_of_post {t : Threads D} (ht : t.Held m r) {s : Sample}
    (hpc : t.finder_pc = .post s) :
    t.Reaches P fun t' =>
      t'.finder_pc = .outer ∧ t'.finder = (t.finder.decision (s.measure P)).1 := by
  have hone : t.Reaches P fun t' =>
      t'.finder_pc = .acting (.start (t.finder.decision (s.measure P)).2) ∧
        t'.finder = (t.finder.decision (s.measure P)).1 := by
    apply Reaches.one
    simp only [step, beacon_finder, hpc, ht.1, Option.some.injEq, one_ne_zero, if_false, and_self]
  refine hone.trans P ht fun t' ht' hw => ?_
  rw [← hw.2]
  exact reaches_outer_of_acting P ht' hw.1

/-- The `for` loop ends with everything in the sample. -/
theorem reaches_listened {t : Threads D} (ht : t.Held m r) {s : Sample} {rest : List Beacon}
    (hpc : t.finder_pc = .listening s rest) :
    t.Reaches P fun t' =>
      t'.finder_pc = .listening (s.listen rest) [] ∧ t'.finder = t.finder := by
  induction rest generalizing t s with
  | nil => exact ⟨0, hpc, rfl⟩
  | cons bea rest ih =>
    have hone : t.Reaches P fun t' =>
        t'.finder_pc = .listening (s.hear bea) rest ∧ t'.finder = t.finder := by
      apply Reaches.one
      simp only [step, beacon_finder, hpc, and_self]
    refine hone.trans P ht fun t' ht' hl => ?_
    rw [← hl.2]
    exact ih ht' hl.1

/-- Ten advertisements of `39` end the sampling loop. -/
theorem reaches_post_of_sampling {t : Threads D} (ht : t.Held m r) {s : Sample}
    (hpc : t.finder_pc = .sampling s) :
    t.Reaches P fun t' => (∃ s', t'.finder_pc = .post s') ∧ t'.finder = t.finder := by
  have hone : t.Reaches P fun t' =>
      t'.finder_pc = .listening s ten_near ∧ t'.finder = t.finder := by
    apply Reaches.one
    simp only [step, beacon_finder, hpc, and_self]
  have hclosed : ¬ (s.listen ten_near).Open := by
    intro hopen
    have h10 := hopen.1
    have hnum := s.num_listen ten_near .m39
    have hten : ten_near.countP (fun bea => bea.major = Major.m39.number) = 10 := by decide
    rw [hten] at hnum
    change (s.listen ten_near).num_1 = s.num_1 + 10 at hnum
    omega
  refine hone.trans P ht fun t' ht' hl => ?_
  rw [← hl.2]
  refine (reaches_listened P ht' hl.1).trans P ht' fun t'' _ hl' => ?_
  apply Reaches.one
  simp only [step, beacon_finder, hl'.1, if_neg hclosed]
  exact ⟨⟨_, rfl⟩, hl'.2⟩

/-- The finder always comes back to the test of line 119. -/
theorem reaches_outer {t : Threads D} (ht : t.Held m r) :
    t.Reaches P fun t' => t'.finder_pc = .outer := by
  have hpost : ∀ (t : Threads D) (s : Sample), t.Held m r → t.finder_pc = .post s →
      t.Reaches P fun t' => t'.finder_pc = .outer := by
    intro t s ht hpc
    exact (reaches_outer_of_post P ht hpc).trans P ht fun t' _ ho => ⟨0, ho.1⟩
  have hsampling : ∀ (t : Threads D) (s : Sample), t.Held m r → t.finder_pc = .sampling s →
      t.Reaches P fun t' => t'.finder_pc = .outer := by
    intro t s ht hpc
    refine (reaches_post_of_sampling P ht hpc).trans P ht fun t' ht' hp => ?_
    obtain ⟨⟨s', hs'⟩, -⟩ := hp
    exact hpost t' s' ht' hs'
  cases hpc : t.finder_pc with
  | outer => exact ⟨0, hpc⟩
  | sampling s => exact hsampling t s ht hpc
  | post s => exact hpost t s ht hpc
  | acting w => exact (reaches_outer_of_acting P ht hpc).trans P ht fun t' _ ho => ⟨0, ho.1⟩
  | listening s rest =>
    refine (reaches_listened P ht hpc).trans P ht fun t' ht' hl => ?_
    by_cases hopen : (s.listen rest).Open
    · have hone : t'.Reaches P fun t'' => t''.finder_pc = .sampling (s.listen rest) := by
        apply Reaches.one
        simp only [step, beacon_finder, hl.1, if_pos hopen]
      exact hone.trans P ht' fun t'' ht'' => hsampling t'' _ ht''
    · have hone : t'.Reaches P fun t'' => t''.finder_pc = .post (s.listen rest) := by
        apply Reaches.one
        simp only [step, beacon_finder, hl.1, if_neg hopen]
      exact hone.trans P ht' fun t'' ht'' => hpost t'' _ ht''

omit [IsStrictOrderedRing D] in
/-- A later decision that asks for nothing counts its round as lost. -/
theorem lost_of_silent {st : BeaconFinder D} (h : st.Locked m r) {d : Measured D}
    (hnone : (st.decision d).2 = []) :
    st.beacon_lost m < 2 ∧ (st.decision d).1.beacon_lost m = st.beacon_lost m + 1 := by
  obtain ⟨-, hcount, hacts⟩ := BeaconFinder.decision_locked h d
  have hlost : verdict m.tolerance r (d.dist m) (st.beacon_lost m) = .lost := by
    rw [hnone] at hacts
    generalize verdict m.tolerance r (d.dist m) (st.beacon_lost m) = v at hacts
    cases v <;> simp [Verdict.acts] at hacts ⊢
  rw [hcount, hlost]
  refine ⟨?_, rfl⟩
  unfold verdict at hlost
  split_ifs at hlost with h0 haway h2
  omega

/-- From the test of line 119, three rounds at most lead to a decision that asks for
something: a round that does not is counted as lost. -/
theorem reaches_decision {t : Threads D} (ht : t.Held m r) (hpc : t.finder_pc = .outer) :
    t.Reaches P fun t' => ∃ s, t'.Decides P s := by
  induction hn : 2 - t.finder.beacon_lost m using Nat.strong_induction_on generalizing t with
  | _ n ih =>
    have hbegin : t.Reaches P fun t' => t'.finder_pc = .sampling .init ∧ t'.finder = t.finder := by
      apply Reaches.one
      simp only [step, beacon_finder, hpc, if_pos ht.1, and_self]
    refine hbegin.trans P ht fun t₁ ht₁ h₁ => ?_
    refine (reaches_post_of_sampling P ht₁ h₁.1).trans P ht₁ fun t₂ ht₂ h₂ => ?_
    obtain ⟨⟨s, hs⟩, hsame⟩ := h₂
    by_cases hnone : (t₂.finder.decision (s.measure P)).2 = []
    · obtain ⟨hlt, hcount⟩ := lost_of_silent ht₂.2 hnone
      refine (reaches_outer_of_post P ht₂ hs).trans P ht₂ fun t₃ ht₃ h₃ => ?_
      refine ih _ ?_ ht₃ h₃.1 rfl
      rw [h₃.2, hcount, ← hn, ← h₁.2, ← hsame]
      omega
    · refine ⟨0, s, hs, ?_, hnone⟩
      change t₂.shared.info ≠ some 0
      rw [ht₂.1]
      simp

/-- **Where something is locked at the change, some later decision uses it**, on a
sample received entirely since. -/
theorem old_reference_used {t : Threads D} (ht : t.Held m r) :
    ∃ (ls : List Label) (s : Sample), (∀ l ∈ ls, l = .beacon_finder ten_near) ∧
      (run (step P) t ls).Decides P s ∧ SampledSince P t ls ∧
      ¬ Dated P t (ls ++ [.beacon_finder ten_near]) := by
  obtain ⟨n, hn⟩ := reaches_outer P ht
  have hheld := (held_run P ht ten_near n).1
  have hbegins : (run (step P) t (List.replicate n (.beacon_finder ten_near))).Begins :=
    ⟨hn, hheld.1⟩
  obtain ⟨n', s, hs⟩ := reaches_decision P hheld hn
  -- the decision is not the test itself, so the round begins before it
  obtain ⟨k, rfl⟩ : ∃ k, n' = k + 1 := by
    rcases n' with _ | k
    · have hpost := hs.1
      rw [List.replicate_zero, run_nil, hn] at hpost
      simp at hpost
    · exact ⟨k, rfl⟩
  rw [← run_append] at hs
  have hlabels : List.replicate n (Label.beacon_finder ten_near) ++
      List.replicate (k + 1) (.beacon_finder ten_near)
      = List.replicate (n + (k + 1)) (.beacon_finder ten_near) := by
    rw [← List.replicate_add]
  refine ⟨List.replicate n (.beacon_finder ten_near) ++
      List.replicate (k + 1) (.beacon_finder ten_near), s, ?_, hs, Or.inr ⟨_, _, _, rfl, hbegins⟩,
    ?_⟩
  · intro l hl
    rw [hlabels] at hl
    exact List.eq_of_mem_replicate hl
  · rintro ⟨d, hd, -⟩
    rw [hlabels, ← List.replicate_succ', (held_run P ht ten_near _).2] at hd
    simp at hd

/-! ## The reference of the session -/

/-- After a change of the mode to `1`, and before the next one, every decision on a
sample received since the change uses a beacon and a reference locked since. -/
def OwnReference (t : Threads D) : Prop :=
  ∀ (ls : List Label) (s : Sample) (returnList : List Beacon),
    Steps (step P) (fun t l => ¬ t.Arms l) t ls → (run (step P) t ls).Decides P s →
    SampledSince P t ls → Dated P t (ls ++ [.beacon_finder returnList])

/-- The step does not change the mode to `1` while something is locked. -/
def Reset (t : Threads D) (l : Label) : Prop := t.Arms l → t.finder.count_1 = 0

/-- One change of the mode, either way. -/
theorem own_reference_after (pre : List Label) :
    OwnReference P (run (step P) (init : Threads D) (pre ++ [.mode_check 1])) ↔
      (run (step P) (init : Threads D) pre).finder.count_1 = 0 := by
  rw [run_concat]
  constructor
  · intro h
    by_contra hc
    obtain ⟨m, r, hl⟩ := (fresh_or_locked P pre).resolve_left fun hfresh => hc hfresh.count_1
    obtain ⟨ls, s, hls, hd, hs, hnot⟩ := old_reference_used P
      (t := (run (step P) (init : Threads D) pre).step P (.mode_check 1)) ⟨rfl, hl⟩
    refine hnot (h ls s ten_near (Steps.of_labels ?_ _) hd hs)
    -- the finder moves alone, so the mode does not change again
    rintro l hl t ⟨rfl, -⟩
    simpa using hls _ hl
  · intro hc ls s returnList _ hd _
    have hfresh := fresh_of_count_1 P pre hc
    exact dated_of_decides P (t := (run (step P) init pre).step P (.mode_check 1)) hfresh hd
      returnList

/-- **Every session is judged against its own reference** if the mode never changes to
`1` while something is locked; and after a change that does find something locked, some
decision on fresh samples still uses the earlier session's. -/
theorem own_reference_iff_reset :
    (∀ labels : List Label, Steps (step P) Reset (init : Threads D) labels →
      ∀ pre post, labels = pre ++ .mode_check 1 :: post →
        (run (step P) (init : Threads D) pre).Arms (.mode_check 1) →
        OwnReference P (run (step P) (init : Threads D) (pre ++ [.mode_check 1]))) ∧
    (∀ pre : List Label, (run (step P) (init : Threads D) pre).Arms (.mode_check 1) →
      (OwnReference P (run (step P) (init : Threads D) (pre ++ [.mode_check 1])) ↔
        (run (step P) (init : Threads D) pre).finder.count_1 = 0)) := by
  refine ⟨?_, fun pre _ => own_reference_after P pre⟩
  rintro labels h pre post rfl harms
  rw [steps_append, steps_cons] at h
  exact (own_reference_after P pre).mpr (h.2.1 harms)

end Runs

/-! ## A change that is not met -/

/-- The finder is locked on `39` and back in the sampling loop. -/
def locked_39 : List Label := heard_39 ++ List.replicate 7 (.beacon_finder [])

/-- The mode becomes `0`; the finder ends its sample, drops it, and runs the
deactivation branch. -/
def deactivated : List Label :=
  locked_39 ++ .mode_check 0 :: .beacon_finder ten_near :: List.replicate 13 (.beacon_finder [])

/-- A session that starts after the deactivation branch uses its own reference. -/
theorem own_reference_after_deactivation :
    OwnReference Power.floor (run (step Power.floor) init (deactivated ++ [.mode_check 1])) := by
  have harms : (run (step Power.floor) init deactivated).Arms (.mode_check 1) := by
    decide +kernel
  have hcount : (run (step Power.floor) init deactivated).finder.count_1 = 0 := by
    decide +kernel
  exact ((own_reference_iff_reset (D := ℚ) Power.floor).2 deactivated harms).mpr hcount

/-- The mode goes to `0` and back to `1` while the finder samples. The bicycle is now
at `234`, and the third round since is a theft of it from `39`. -/
theorem old_reference_after_unmet_change :
    ¬ OwnReference Power.floor
      (run (step Power.floor) init (locked_39 ++ [.mode_check 0] ++ [.mode_check 1])) := by
  intro h
  have hdated := h (List.replicate 42 (.beacon_finder (List.replicate 10 ⟨234, -59, -59⟩)))
    ⟨0, 0, -590, 10, -59⟩ [] (by decide +kernel) (by decide +kernel) ?_
  · obtain ⟨d, hd, -⟩ := hdated
    have hnone : (emitted (step Power.floor) (locks Power.floor)
        (run (step Power.floor) init (locked_39 ++ [.mode_check 0] ++ [.mode_check 1]))
        (List.replicate 42 (.beacon_finder (List.replicate 10 ⟨234, -59, -59⟩)) ++
          [.beacon_finder []])).length = 0 := by
      decide +kernel
    rw [List.eq_nil_of_length_eq_zero hnone] at hd
    simp at hd
  · left
    have hpc : (run (step Power.floor) init
        (locked_39 ++ [.mode_check 0] ++ [.mode_check 1])).finder_pc = .sampling .init := by
      decide +kernel
    simp only [Collected, hpc, ne_eq, not_true_eq_false, not_false_eq_true]

end Threads

end SmartBike.Parking
