/-
The beacon that the first round of a session locks on, against the one that should be.

`nearer` compares the two distances, and a beacon that was not heard has the distance
`100.0`. So the choice is right whenever both beacons were heard, and when only one was,
if that one is not farther than the default: if its signal has lost no more than 40 dB,
since a distance is ten to the twentieth part of the loss (`nearest_iff`).
-/
import SmartBike.Parking.Location
import SmartBike.Parking.Sampling

set_option autoImplicit false

open Runs

namespace SmartBike.Parking

/-! ## The choice of one round -/

theorem Major.eq_m234_of_ne {m : Major} (h : m ≠ .m39) : m = .m234 := by
  cases m with
  | m39 => exact absurd rfl h
  | m234 => rfl

namespace Sample

/-- The loss of the signal of a beacon, `TX_val` minus the mean RSSI, times the number
of its advertisements. -/
def loss (s : Sample) (m : Major) : ℤ := s.TX_val * s.num m - s.sum m

/-- Both beacons were heard, or one was, and has lost less than 40 dB; for `234` it may
be exactly 40. -/
def InRange (s : Sample) : Prop :=
  (s.num .m39 ≠ 0 ∧ s.num .m234 ≠ 0) ∨
    (s.num .m39 ≠ 0 ∧ s.num .m234 = 0 ∧ s.loss .m39 < 40 * s.num .m39) ∨
    (s.num .m39 = 0 ∧ s.num .m234 ≠ 0 ∧ s.loss .m234 ≤ 40 * s.num .m234)

instance (s : Sample) : Decidable s.InRange := inferInstanceAs (Decidable (_ ∨ _ ∨ _))

end Sample

/-- The beacon was heard, and the other one, if it was, is not nearer. -/
def Nearest {D : Type*} [Field D] [LinearOrder D] [IsStrictOrderedRing D] (P : Power D)
    (s : Sample) (m : Major) : Prop :=
  s.num m ≠ 0 ∧
    (s.num m.other ≠ 0 → ¬ (s.measure P).dist m.other < (s.measure P).dist m)

theorem pow10_real_lt_iff (x y : ℝ) : Power.real.pow10 x < Power.real.pow10 y ↔ x < y := by
  change (10 : ℝ) ^ x < (10 : ℝ) ^ y ↔ x < y
  rw [Real.rpow_lt_rpow_left_iff (by norm_num)]

theorem pow10_real_two : Power.real.pow10 2 = 100 := by
  change (10 : ℝ) ^ (2 : ℝ) = 100
  norm_num

/-- A distance is ten to the twentieth part of the mean loss. -/
theorem dist_heard {s : Sample} {m : Major} (h : s.num m ≠ 0) :
    (s.measure Power.real).dist m
      = Power.real.pow10 ((s.loss m : ℝ) / (20 * (s.num m : ℝ))) := by
  have hnum : (s.num m : ℝ) ≠ 0 := Nat.cast_ne_zero.mpr h
  rw [dist_measure, distance, if_pos h]
  congr 1
  unfold Sample.loss
  push_cast
  field_simp

/-- The loss at the default distance. -/
theorem two_mul_num (num : ℕ) : (2 : ℝ) * (20 * (num : ℝ)) = ((40 * (num : ℤ) : ℤ) : ℝ) := by
  push_cast
  ring

theorem dist_lt_100_iff {s : Sample} {m : Major} (h : s.num m ≠ 0) :
    (s.measure Power.real).dist m < 100 ↔ s.loss m < 40 * s.num m := by
  have hnum : (0 : ℝ) < s.num m := Nat.cast_pos.mpr (Nat.pos_of_ne_zero h)
  rw [← pow10_real_two, dist_heard h, pow10_real_lt_iff, div_lt_iff₀ (by linarith), two_mul_num,
    Int.cast_lt]

theorem lt_100_dist_iff {s : Sample} {m : Major} (h : s.num m ≠ 0) :
    100 < (s.measure Power.real).dist m ↔ 40 * s.num m < s.loss m := by
  have hnum : (0 : ℝ) < s.num m := Nat.cast_pos.mpr (Nat.pos_of_ne_zero h)
  rw [← pow10_real_two, dist_heard h, pow10_real_lt_iff, lt_div_iff₀ (by linarith), two_mul_num,
    Int.cast_lt]

/-- **When the choice is right.** -/
theorem nearest_iff (s : Sample) :
    Nearest Power.real s (s.measure Power.real).nearer ↔ s.InRange := by
  have hlt : (s.measure Power.real).nearer = .m39 ↔
      (s.measure Power.real).dist .m39 < (s.measure Power.real).dist .m234 := by
    unfold Measured.nearer
    split_ifs with h
    · exact iff_of_true rfl h
    · exact iff_of_false (by simp) h
  unfold Nearest Sample.InRange
  by_cases h39 : s.num .m39 = 0
  · have hd39 := dist_measure_unheard Power.real s .m39 h39
    by_cases h234 : s.num .m234 = 0
    · -- nothing was heard
      cases (s.measure Power.real).nearer <;> simp [h39, h234]
    · -- only `234`: right unless it is beyond the default
      rw [hd39, lt_100_dist_iff h234] at hlt
      by_cases hfar : 40 * (s.num .m234 : ℤ) < s.loss .m234
      · rw [hlt.mpr hfar]
        simp [h39, hfar]
      · have hn : (s.measure Power.real).nearer = .m234 := by
          cases hn : (s.measure Power.real).nearer with
          | m39 => exact absurd (hlt.mp hn) hfar
          | m234 => rfl
        rw [hn]
        simp [Major.other, h39, h234, not_lt.mp hfar]
  · by_cases h234 : s.num .m234 = 0
    · -- only `39`: right if it is nearer than the default
      rw [dist_measure_unheard Power.real s .m234 h234, dist_lt_100_iff h39] at hlt
      by_cases hnear : s.loss .m39 < 40 * (s.num .m39 : ℤ)
      · rw [hlt.mpr hnear]
        simp [Major.other, h39, h234, hnear]
      · have hn : (s.measure Power.real).nearer = .m234 := by
          cases hn : (s.measure Power.real).nearer with
          | m39 => exact absurd (hlt.mp hn) hnear
          | m234 => rfl
        rw [hn]
        simp [h39, h234, hnear]
    · -- both: the comparison is between measured distances
      refine iff_of_true ?_ (Or.inl ⟨h39, h234⟩)
      cases hn : (s.measure Power.real).nearer with
      | m39 => exact ⟨h39, fun _ => (hlt.mp hn).not_gt⟩
      | m234 =>
        refine ⟨h234, fun _ hgt => ?_⟩
        rw [hlt.mpr hgt] at hn
        simp at hn

/-! ## The first decision of a session -/

namespace Threads

/-- What the first decision of a session does with the nearer beacon. -/
theorem first_decision {t : Threads ℝ} {s : Sample} (hpc : t.finder_pc = .post s)
    (hinfo : t.shared.info ≠ some 0) (hfresh : t.finder.Fresh) (returnList : List Beacon) :
    (t.beacon_finder Power.real returnList).finder.reference (s.measure Power.real).nearer
        = (s.measure Power.real).dist (s.measure Power.real).nearer ∧
      (t.beacon_finder Power.real returnList).finder.reference
        (s.measure Power.real).nearer.other = 100 ∧
      (t.beacon_finder Power.real returnList).finder.location_data
        = some (s.measure Power.real).nearer ∧
      (t.beacon_finder Power.real returnList).pending .beacon_finder
        = if t.finder.location_data = some (s.measure Power.real).nearer then []
          else [(s.measure Power.real).nearer] := by
  have hstep : t.beacon_finder Power.real returnList
      = { t with
          finder_pc := .acting (.start (t.finder.decision (s.measure Power.real)).2)
          finder := (t.finder.decision (s.measure Power.real)).1 } := by
    simp only [beacon_finder, hpc, if_neg hinfo]
  rw [hstep]
  obtain ⟨hdata, hacts⟩ := BeaconFinder.decision_location (BeaconFinder.branch_fresh hfresh
    (s.measure Power.real))
  obtain ⟨hown, hmark⟩ := BeaconFinder.reference_fresh hfresh (s.measure Power.real)
  exact ⟨hown, hmark, hdata, hacts⟩

/-- At the start of a session the finder has nothing locked. -/
theorem fresh_of_session {D : Type*} [Field D] [LinearOrder D] [IsStrictOrderedRing D]
    (P : Power D) {labels : List Label}
    (h : session ((iterations P).trace (init : Threads D) labels) = []) :
    (run (step P) (init : Threads D) labels).finder.Fresh := by
  have hfinder := (iterations P).abs_run (init : Threads D) labels
  change (run (step P) init labels).finder = _ at hfinder
  rw [hfinder]
  exact fresh_of_session_nil h

/-- **The parking beacon.** In every run, the first decision of a session is taken on a completed
round. It takes the distance of one beacon as its reference and marks the other; that beacon is
recorded as the location, which is sent unless it was sent last; and it was heard, with no
beacon that was heard nearer, exactly if the round is in range. -/
theorem parking_beacon_iff (labels : List Label) (returnList : List Beacon) (s : Sample)
    (hpc : (run (step Power.real) init labels).finder_pc = .post s)
    (hinfo : (run (step Power.real) init labels).shared.info ≠ some 0)
    (hsession : session ((iterations Power.real).trace init labels) = []) :
    (∃ results, s = sampled results ∧ Completed results) ∧ ∃ m,
      ((run (step Power.real) init labels).step Power.real (.beacon_finder returnList)
        ).finder.reference m = (s.measure Power.real).dist m ∧
      ((run (step Power.real) init labels).step Power.real (.beacon_finder returnList)
        ).finder.reference m.other = 100 ∧
      ((run (step Power.real) init labels).step Power.real (.beacon_finder returnList)
        ).finder.location_data = some m ∧
      ((run (step Power.real) init labels).step Power.real (.beacon_finder returnList)
        ).pending .beacon_finder
          = (if (run (step Power.real) init labels).finder.location_data = some m then [] else [m]) ∧
      (Nearest Power.real s m ↔ s.InRange) := by
  obtain ⟨hown, hmark, hdata, hsent⟩ :=
    first_decision hpc hinfo (fresh_of_session Power.real hsession) returnList
  exact ⟨post_completed Power.real hpc, _, hown, hmark, hdata, hsent, nearest_iff s⟩

/-- Ten advertisements of `39` at one metre: it is locked, and rightly. -/
theorem parking_beacon_near :
    ∃ m,
      ((run (step Power.real) init heard_39).step Power.real (.beacon_finder [])
        ).finder.location_data = some m ∧
      Nearest Power.real ⟨-590, 10, 0, 0, -59⟩ m := by
  have hinfo : (run (step Power.real) init heard_39).shared.info = some 1 := rfl
  obtain ⟨-, m, -, -, hdata, -, hiff⟩ := parking_beacon_iff heard_39 [] ⟨-590, 10, 0, 0, -59⟩ rfl
    (by rw [hinfo]; simp) rfl
  exact ⟨m, hdata, hiff.mpr (by decide)⟩

/-- The mode becomes `1` and the finder hears `39` ten times, each time after a loss of
60 dB, and `234` not at all; its first decision is next. -/
def heard_faint : List Label :=
  .mode_check 1 :: .beacon_finder [] ::
    .beacon_finder (List.replicate 10 ⟨39, -40, -100⟩) :: List.replicate 11 (.beacon_finder [])

/-- The finder locks on `234`, which it has not heard. -/
theorem parking_beacon_unheard :
    (run (step Power.real) init heard_faint).finder_pc = .post ⟨-1000, 10, 0, 0, -40⟩ ∧
      session ((iterations Power.real).trace init heard_faint) = [] ∧
      ((run (step Power.real) init heard_faint).step Power.real (.beacon_finder [])
        ).finder.location_data = some .m234 ∧
      ((run (step Power.real) init heard_faint).step Power.real (.beacon_finder [])
        ).pending .beacon_finder = [.m234] ∧
      Sample.num ⟨-1000, 10, 0, 0, -40⟩ .m234 = 0 ∧
      ¬ Nearest Power.real ⟨-1000, 10, 0, 0, -40⟩ .m234 := by
  have hpc : (run (step Power.real) init heard_faint).finder_pc = .post ⟨-1000, 10, 0, 0, -40⟩ :=
    rfl
  have hinfo : (run (step Power.real) init heard_faint).shared.info = some 1 := rfl
  have hsession : session ((iterations Power.real).trace init heard_faint) = [] := rfl
  have hlocation : (run (step Power.real) init heard_faint).finder.location_data = none := rfl
  have hfar : ¬ Sample.InRange ⟨-1000, 10, 0, 0, -40⟩ := by decide
  have hn : (Sample.measure Power.real ⟨-1000, 10, 0, 0, -40⟩).nearer = .m234 := by
    refine Major.eq_m234_of_ne fun hn => hfar ((nearest_iff _).mp ?_)
    rw [hn]
    exact ⟨by decide, by decide⟩
  obtain ⟨-, -, hdata, hsent⟩ := first_decision hpc (by rw [hinfo]; simp)
    (fresh_of_session Power.real hsession) []
  rw [hn] at hdata hsent
  rw [hlocation] at hsent
  refine ⟨hpc, hsession, hdata, hsent, rfl, fun h => h.1 rfl⟩

end Threads

end SmartBike.Parking
