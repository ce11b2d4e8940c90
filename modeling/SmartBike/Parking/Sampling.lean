/-
A sampling round from the advertisements it accepts to the two distances.

The sums and the counts of the two beacons are kept apart (`sum_listen`, `num_listen_own`);
`TX_val` is not: it is the TX value of the advertisement accepted last, of whichever beacon
(`TX_listen`). So the distance of a beacon depends on its own advertisements, in any
order, and on that value (`dist_eq_iff`).
-/
import SmartBike.Parking.Threads

set_option autoImplicit false

open Runs

namespace SmartBike.Parking

/-! ## What the loop accumulates -/

/-- The advertisements of one beacon. -/
def own (m : Major) (heard : List Beacon) : List Beacon :=
  heard.filter fun bea => bea.major = m.number

/-- The TX value of the advertisement accepted last. -/
def last_TX (heard : List Beacon) : Option ℤ :=
  ((heard.filter fun bea => bea.Accepted).getLast?).map Beacon.tx

theorem accepted_iff (bea : Beacon) : bea.Accepted ↔ ∃ m : Major, bea.major = m.number := by
  constructor
  · rintro (h | h)
    · exact ⟨.m39, h⟩
    · exact ⟨.m234, h⟩
  · rintro ⟨m, h⟩
    cases m with
    | m39 => exact Or.inl h
    | m234 => exact Or.inr h

theorem own_cons (m : Major) (bea : Beacon) (heard : List Beacon) :
    own m (bea :: heard) = if bea.major = m.number then bea :: own m heard else own m heard := by
  unfold own
  rw [List.filter_cons]
  by_cases h : bea.major = m.number
  · simp [h]
  · simp [h]

theorem last_TX_cons (bea : Beacon) (heard : List Beacon) :
    last_TX (bea :: heard)
      = if bea.Accepted then some ((last_TX heard).getD bea.tx) else last_TX heard := by
  unfold last_TX
  rw [List.filter_cons]
  by_cases h : bea.Accepted
  · rw [if_pos (by simpa using h), if_pos h, List.getLast?_cons, Option.map_some, Option.getD_map]
  · rw [if_neg (by simpa using h), if_neg h]

namespace Sample

/-- `sum_1` or `sum_2`, by the beacon it belongs to. -/
def sum (s : Sample) : Major → ℤ
  | .m39 => s.sum_1
  | .m234 => s.sum_2

theorem sum_hear (s : Sample) (bea : Beacon) (m : Major) :
    (s.hear bea).sum m = s.sum m + if bea.major = m.number then bea.rssi else 0 := by
  cases m <;> by_cases h39 : bea.major = 39 <;> by_cases h234 : bea.major = 234 <;>
    simp_all [hear, sum, Major.number]

theorem TX_hear (s : Sample) (bea : Beacon) :
    (s.hear bea).TX_val = if bea.Accepted then bea.tx else s.TX_val := by
  unfold hear Beacon.Accepted
  by_cases h39 : bea.major = 39
  · simp [h39]
  · by_cases h234 : bea.major = 234
    · simp [h234]
    · simp [h39, h234]

/-- The count of a beacon counts its advertisements. -/
theorem num_listen_own (s : Sample) (heard : List Beacon) (m : Major) :
    (s.listen heard).num m = s.num m + (own m heard).length := by
  rw [num_listen, List.countP_eq_length_filter]
  rfl

/-- The sum of a beacon is over its advertisements. -/
theorem sum_listen (s : Sample) (heard : List Beacon) (m : Major) :
    (s.listen heard).sum m = s.sum m + ((own m heard).map Beacon.rssi).sum := by
  induction heard generalizing s with
  | nil => simp [own]
  | cons bea heard ih =>
    rw [listen_cons, ih, sum_hear, own_cons]
    split_ifs
    · rw [List.map_cons, List.sum_cons, add_assoc]
    · rw [add_zero]

/-- The TX value is that of the advertisement accepted last. -/
theorem TX_listen (s : Sample) (heard : List Beacon) :
    (s.listen heard).TX_val = (last_TX heard).getD s.TX_val := by
  induction heard generalizing s with
  | nil => rfl
  | cons bea heard ih =>
    rw [listen_cons, ih, TX_hear, last_TX_cons]
    split_ifs
    · rcases last_TX heard with _ | tx
      · rfl
      · rfl
    · rfl

end Sample

/-! ## Rounds -/

/-- The locals after the given results of `parse_events`. -/
def sampled (results : List (List Beacon)) : Sample := results.foldl Sample.listen .init

/-- The `while` loop has gone on to the last of the results and ends after it. -/
def Completed (results : List (List Beacon)) : Prop :=
  (sampled results.dropLast).Open ∧ ¬ (sampled results).Open

instance (results : List (List Beacon)) : Decidable (Completed results) :=
  inferInstanceAs (Decidable (_ ∧ _))

theorem sampled_concat (results : List (List Beacon)) (returnList : List Beacon) :
    sampled (results ++ [returnList]) = (sampled results).listen returnList :=
  List.foldl_concat ..

theorem sampled_eq_listen (results : List (List Beacon)) :
    sampled results = Sample.init.listen results.flatten := by
  induction results using List.reverseRecOn with
  | nil => rfl
  | append_singleton results returnList ih =>
    rw [sampled_concat, ih, List.flatten_concat]
    exact List.foldl_append.symm

theorem num_sampled (results : List (List Beacon)) (m : Major) :
    (sampled results).num m = (own m results.flatten).length := by
  rw [sampled_eq_listen, Sample.num_listen_own, Sample.num_init, Nat.zero_add]

theorem sum_sampled (results : List (List Beacon)) (m : Major) :
    (sampled results).sum m = ((own m results.flatten).map Beacon.rssi).sum := by
  rw [sampled_eq_listen, Sample.sum_listen]
  cases m
  · exact zero_add _
  · exact zero_add _

theorem TX_sampled (results : List (List Beacon)) :
    (sampled results).TX_val = (last_TX results.flatten).getD 0 := by
  rw [sampled_eq_listen, Sample.TX_listen]
  rfl

namespace Threads

variable {D : Type*} [Field D] [LinearOrder D]

/-- What the sample of a round is, wherever the finder is in it. -/
def InRound (t : Threads D) : Prop :=
  match t.finder_pc with
  | .sampling s => ∃ results, s = sampled results ∧ s.Open
  | .listening s _ => ∃ results heard, s = (sampled results).listen heard ∧ (sampled results).Open
  | .post s => ∃ results, s = sampled results ∧ Completed results
  | _ => True

variable [IsStrictOrderedRing D] (P : Power D)

theorem inRound_step (t : Threads D) (l : Label) (h : t.InRound) : (t.step P l).InRound := by
  unfold InRound at h
  cases l with
  | mode_check info => exact h
  | beacon_condition =>
    have hpc : t.beacon_condition.finder_pc = t.finder_pc := by
      unfold beacon_condition
      split <;> (try split_ifs) <;> rfl
    change t.beacon_condition.InRound
    unfold InRound
    rw [hpc]
    exact h
  | beacon_finder returnList =>
    change (t.beacon_finder P returnList).InRound
    unfold beacon_finder InRound
    cases hpc : t.finder_pc with
    | outer =>
      dsimp only
      split_ifs
      · exact ⟨[], rfl, by decide⟩
      · trivial
    | sampling s =>
      rw [hpc] at h
      obtain ⟨results, rfl, hopen⟩ := h
      exact ⟨results, [], rfl, hopen⟩
    | listening s rest =>
      rw [hpc] at h
      obtain ⟨results, heard, rfl, hopen⟩ := h
      cases rest with
      | cons bea rest =>
        refine ⟨results, heard ++ [bea], ?_, hopen⟩
        exact (List.foldl_concat ..).symm
      | nil =>
        -- the result that was heard is complete, and the loop goes on or ends
        have hall : (sampled results).listen heard = sampled (results ++ [heard]) :=
          (sampled_concat results heard).symm
        dsimp only
        rw [hall]
        by_cases hgo : (sampled (results ++ [heard])).Open
        · rw [if_pos hgo]
          exact ⟨_, rfl, hgo⟩
        · rw [if_neg hgo]
          exact ⟨_, rfl, by rw [List.dropLast_concat]; exact hopen, hgo⟩
    | post s => dsimp only; split_ifs <;> trivial
    | acting w => dsimp only; split_ifs <;> trivial

/-- **The sample a decision is taken on** is that of a completed round. -/
theorem post_completed {labels : List Label} {s : Sample}
    (h : (run (step P) (init : Threads D) labels).finder_pc = .post s) :
    ∃ results, s = sampled results ∧ Completed results := by
  have hround : (run (step P) (init : Threads D) labels).InRound :=
    invariant (inRound_step P) (by trivial) labels
  unfold InRound at hround
  rw [h] at hround
  exact hround

end Threads

/-! ## Distances -/

section Distances

variable {D : Type*} [Field D] [LinearOrder D] [IsStrictOrderedRing D]

theorem dist_measure (P : Power D) (s : Sample) (m : Major) :
    (s.measure P).dist m = distance P s.TX_val (s.sum m) (s.num m) := by
  cases m <;> rfl

/-- With sum and count the same, the distance tells the TX values apart. -/
theorem distance_eq_iff {P : Power D} (hP : Function.Injective P.pow10) {TX_val TX_val' sum : ℤ}
    {num : ℕ} (hnum : num ≠ 0) :
    distance P TX_val sum num = distance P TX_val' sum num ↔ TX_val = TX_val' := by
  unfold distance
  rw [if_pos hnum, if_pos hnum, hP.eq_iff, div_left_inj' (by norm_num), sub_left_inj,
    Int.cast_inj]

end Distances

theorem pow10_real_injective : Function.Injective Power.real.pow10 :=
  (Real.strictMono_rpow_of_base_gt_one (by norm_num)).injective

/-- **What the distance of a beacon depends on**: for rounds with the same advertisements
of a beacon, in any order, only on the TX value of the one accepted last. -/
theorem dist_eq_iff {m : Major} {results results' : List (List Beacon)}
    (hown : (own m results.flatten).Perm (own m results'.flatten))
    (hheard : own m results.flatten ≠ []) :
    ((sampled results).measure Power.real).dist m = ((sampled results').measure Power.real).dist m ↔
      last_TX results.flatten = last_TX results'.flatten := by
  have hnum : (sampled results).num m = (sampled results').num m := by
    rw [num_sampled, num_sampled, hown.length_eq]
  have hsum : (sampled results).sum m = (sampled results').sum m := by
    rw [sum_sampled, sum_sampled, (hown.map _).sum_eq]
  have hne : (sampled results).num m ≠ 0 := by
    rw [num_sampled]
    exact List.length_pos_iff.mpr hheard |>.ne'
  -- a beacon that was heard has left a TX value
  have hlast : ∀ r : List (List Beacon), own m r.flatten ≠ [] →
      ∃ tx, last_TX r.flatten = some tx := by
    intro r hr
    obtain ⟨bea, hbea⟩ := List.exists_mem_of_ne_nil _ hr
    rw [own, List.mem_filter] at hbea
    have hmem : bea ∈ r.flatten.filter fun bea => bea.Accepted := by
      rw [List.mem_filter]
      exact ⟨hbea.1, by simpa using (accepted_iff bea).mpr ⟨m, by simpa using hbea.2⟩⟩
    unfold last_TX
    rcases hget : (r.flatten.filter fun bea => bea.Accepted).getLast? with _ | last
    · rw [List.getLast?_eq_none_iff.mp hget] at hmem
      simp at hmem
    · exact ⟨last.tx, by rw [hget]; rfl⟩
  obtain ⟨tx, htx⟩ := hlast results hheard
  obtain ⟨tx', htx'⟩ := hlast results' fun hnil => hheard (by
    rw [hnil] at hown
    exact hown.eq_nil)
  rw [dist_measure, dist_measure, ← hnum, ← hsum, distance_eq_iff pow10_real_injective hne,
    TX_sampled, TX_sampled, htx, htx', Option.getD_some, Option.getD_some, Option.some.injEq]

/-- **Each distance is the beacon's own**, up to the TX value: two rounds with the same
advertisements of a beacon give it the same distance exactly when the advertisements
they accepted last, of whichever beacon, carry the same TX value; and so do two
rounds that differ in the order only, when all advertisements of the beacon carry one
TX value. -/
theorem own_distance_iff (m : Major) (results results' : List (List Beacon))
    (hheard : own m results.flatten ≠ []) :
    (own m results.flatten = own m results'.flatten →
      (((sampled results).measure Power.real).dist m
          = ((sampled results').measure Power.real).dist m ↔
        last_TX results.flatten = last_TX results'.flatten)) ∧
    (results.flatten.Perm results'.flatten →
      (∀ bea ∈ own m results.flatten, ∀ bea' ∈ own m results.flatten, bea.tx = bea'.tx) →
      (((sampled results).measure Power.real).dist m
          = ((sampled results').measure Power.real).dist m ↔
        last_TX results.flatten = last_TX results'.flatten)) := by
  constructor
  · intro hown
    exact dist_eq_iff (by rw [hown]) hheard
  · intro hperm _
    exact dist_eq_iff (hperm.filter _) hheard

/-! ## A round with both beacons -/

/-- Nine advertisements of `39`, one of `234` with another TX value, and a tenth of `39`. -/
def mixed : List (List Beacon) :=
  [List.replicate 9 ⟨39, -59, -59⟩ ++ [⟨234, -79, -70⟩, ⟨39, -59, -59⟩]]

/-- The same advertisements of `39`, and that of `234` after them. -/
def mixed_last : List (List Beacon) :=
  [List.replicate 10 ⟨39, -59, -59⟩ ++ [⟨234, -79, -70⟩]]

/-- With `39` last in both, where that of `234` stands does not matter for `39`. -/
theorem own_distance_mixed :
    ((sampled mixed).measure Power.real).dist .m39
      = ((sampled [List.replicate 10 ⟨39, -59, -59⟩]).measure Power.real).dist .m39 :=
  ((own_distance_iff .m39 mixed [List.replicate 10 ⟨39, -59, -59⟩] (by decide)).1
    (by decide)).mpr (by decide)

/-- Two completed rounds with the same advertisements, those of `39` in the same order
and all with one TX value, and another distance of `39`. -/
theorem distance_of_other_TX :
    Completed mixed ∧ Completed mixed_last ∧
      own .m39 mixed.flatten = own .m39 mixed_last.flatten ∧ own .m39 mixed.flatten ≠ [] ∧
      mixed.flatten.Perm mixed_last.flatten ∧
      (∀ bea ∈ own .m39 mixed.flatten, ∀ bea' ∈ own .m39 mixed.flatten, bea.tx = bea'.tx) ∧
      ((sampled mixed).measure Power.real).dist .m39
        ≠ ((sampled mixed_last).measure Power.real).dist .m39 := by
  refine ⟨by decide, by decide, by decide, by decide, by decide, by decide, ?_⟩
  rw [ne_eq, dist_eq_iff (by decide) (by decide)]
  decide

end SmartBike.Parking
