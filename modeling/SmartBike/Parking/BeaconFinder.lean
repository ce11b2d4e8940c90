/-
`BeaconFinder.run` of `parking_thread.py`, the computation of one round: what is
accumulated while sampling, the two distances, and the decision taken from them.

The thread keeps six locals across rounds (`BeaconFinder`). A round first fills a
`Sample`, then turns it into two distances (`Measured`), then runs lines 169-243,
which only read and write the locals and ask for publications and buzzer edges.
These requests are the list of `Act`s of `decision`; when they are carried out,
and what the other threads do in between, is `Threads.lean`.

Distances are elements of a linearly ordered field `D`, so the arithmetic is
exact; `Power D` is Python's `pow(10, x)` on it.
-/
import Mathlib.Algebra.Order.Field.Basic
import Mathlib.Algebra.Order.Group.Unbundled.Abs
import Mathlib.Analysis.SpecialFunctions.Pow.Real
import Mathlib.Tactic.Linarith

set_option autoImplicit false

namespace SmartBike.Parking

/-! ## The vocabulary of `parking_thread.py` -/

/-- The `con` of a `parking_state` message. -/
inductive ParkingState where
  | safe
  | stolen
  | nobeacon
  | deactivate
  deriving DecidableEq, Repr

/-- The two beacons of the parking lot, by the `major` they advertise. -/
inductive Major where
  | m39
  | m234
  deriving DecidableEq, Repr

namespace Major

def number : Major → ℕ
  | m39 => 39
  | m234 => 234

def other : Major → Major
  | m39 => m234
  | m234 => m39

/-- How far a distance may be from the reference: `0.3` on line 189, `0.5` on
line 224. -/
def tolerance {D : Type*} [Field D] : Major → D
  | m39 => 3 / 10
  | m234 => 5 / 10

end Major

/-- One string of `parse_events` after `split(',')`, as far as the finder reads
it: `bea[2]`, `bea[4]` and `bea[5]`. -/
structure Beacon where
  major : ℕ
  tx : ℤ
  rssi : ℤ
  deriving DecidableEq, Repr

/-- The string comes from one of the two beacons (line 135). -/
def Beacon.Accepted (bea : Beacon) : Prop := bea.major = 39 ∨ bea.major = 234

instance (bea : Beacon) : Decidable bea.Accepted := inferInstanceAs (Decidable (_ ∨ _))

/-! ## Sampling (lines 121-148) -/

/-- The locals of the sampling loop. The sums are sums of integers, which Python's
floats represent exactly. -/
structure Sample where
  sum_1 : ℤ
  num_1 : ℕ
  sum_2 : ℤ
  num_2 : ℕ
  TX_val : ℤ
  deriving DecidableEq, Repr

namespace Sample

def init : Sample := ⟨0, 0, 0, 0, 0⟩

/-- The body of `for beacon in returnList`. -/
def hear (s : Sample) (bea : Beacon) : Sample :=
  if bea.major = 39 then
    { s with sum_1 := s.sum_1 + bea.rssi, num_1 := s.num_1 + 1, TX_val := bea.tx }
  else if bea.major = 234 then
    { s with sum_2 := s.sum_2 + bea.rssi, num_2 := s.num_2 + 1, TX_val := bea.tx }
  else s

/-- The whole `for` loop over one result of `parse_events`. -/
def listen (s : Sample) (returnList : List Beacon) : Sample := returnList.foldl hear s

/-- `while num_1 < 10 and num_2 < 10` goes on. -/
def Open (s : Sample) : Prop := s.num_1 < 10 ∧ s.num_2 < 10

instance (s : Sample) : Decidable s.Open := inferInstanceAs (Decidable (_ ∧ _))

/-- `num_1` or `num_2`, by the beacon it counts. -/
def num (s : Sample) : Major → ℕ
  | .m39 => s.num_1
  | .m234 => s.num_2

@[simp] theorem listen_nil (s : Sample) : s.listen [] = s := rfl

@[simp] theorem listen_cons (s : Sample) (bea : Beacon) (rest : List Beacon) :
    s.listen (bea :: rest) = (s.hear bea).listen rest := rfl

theorem open_iff (s : Sample) (m : Major) : s.Open ↔ s.num m < 10 ∧ s.num m.other < 10 := by
  cases m
  · rfl
  · exact And.comm

@[simp] theorem num_init (m : Major) : init.num m = 0 := by cases m <;> rfl

/-- One string adds one to the count of the beacon it comes from. -/
theorem num_hear (s : Sample) (bea : Beacon) (m : Major) :
    (s.hear bea).num m = s.num m + if bea.major = m.number then 1 else 0 := by
  cases m <;> by_cases h39 : bea.major = 39 <;> by_cases h234 : bea.major = 234 <;>
    simp_all [hear, num, Major.number]

/-- One result of `parse_events` adds to the count of a beacon the number of its
strings in the result. -/
theorem num_listen (s : Sample) (returnList : List Beacon) (m : Major) :
    (s.listen returnList).num m
      = s.num m + returnList.countP (fun bea => bea.major = m.number) := by
  induction returnList generalizing s with
  | nil => rfl
  | cons bea rest ih =>
    rw [listen_cons, ih, num_hear, List.countP_cons]
    by_cases h : bea.major = m.number
    · simp only [h, if_true, decide_true]; omega
    · simp only [h, if_false, decide_false, Bool.false_eq_true]; omega

end Sample

/-! ## Distances (lines 155-167) -/

section Distances

variable (D : Type*) [Field D] [LinearOrder D] [IsStrictOrderedRing D]

/-- Python's `pow(10, x)`, of which the decisions need that it is positive. -/
structure Power where
  pow10 : D → D
  pow10_pos : ∀ x, 0 < pow10 x

/-- The power on the reals, which is what `pow` rounds. -/
noncomputable def Power.real : Power ℝ where
  pow10 x := (10 : ℝ) ^ x
  pow10_pos x := Real.rpow_pos_of_pos (by norm_num) x

/-- A power one can compute with, the right one at every integer exponent. -/
def Power.floor : Power ℚ where
  pow10 x := (10 : ℚ) ^ ⌊x⌋
  pow10_pos x := zpow_pos (by norm_num) ⌊x⌋

/-- The two distances of a round. A measured distance is a power of ten and the
default is `100.0`: none is zero or negative. -/
structure Measured where
  distance_1 : D
  distance_2 : D
  pos_1 : 0 < distance_1
  pos_2 : 0 < distance_2

variable {D}

/-- The distance of one beacon: from the mean RSSI when it was heard, `100.0`
when it was not. `TX_val` is whatever the last accepted string carried. -/
def distance (P : Power D) (TX_val sum : ℤ) (num : ℕ) : D :=
  if num ≠ 0 then P.pow10 (((TX_val : D) - (sum : D) / (num : D)) / 20) else 100

theorem distance_pos (P : Power D) (TX_val sum : ℤ) (num : ℕ) :
    0 < distance P TX_val sum num := by
  unfold distance
  split_ifs with h
  · exact P.pow10_pos _
  · norm_num

omit [IsStrictOrderedRing D] in
/-- A beacon that was not heard is at `100.0`. -/
theorem distance_unheard (P : Power D) (TX_val sum : ℤ) : distance P TX_val sum 0 = 100 := by
  simp [distance]

/-- `distance_1` and `distance_2` after lines 155-167. -/
def Sample.measure (P : Power D) (s : Sample) : Measured D where
  distance_1 := distance P s.TX_val s.sum_1 s.num_1
  distance_2 := distance P s.TX_val s.sum_2 s.num_2
  pos_1 := distance_pos P _ _ _
  pos_2 := distance_pos P _ _ _

namespace Measured

/-- The distance of one of the two beacons. -/
def dist (d : Measured D) : Major → D
  | .m39 => d.distance_1
  | .m234 => d.distance_2

omit [IsStrictOrderedRing D] in
theorem dist_pos (d : Measured D) (m : Major) : 0 < d.dist m := by
  cases m
  · exact d.pos_1
  · exact d.pos_2

/-- The beacon lines 170-174 lock on: `39` when it is strictly nearer. -/
def nearer (d : Measured D) : Major := if d.distance_1 < d.distance_2 then .m39 else .m234

end Measured

theorem dist_measure_unheard (P : Power D) (s : Sample) (m : Major) (h : s.num m = 0) :
    (s.measure P).dist m = 100 := by
  cases m
  · simp only [Sample.num] at h
    simp only [Sample.measure, Measured.dist, h, distance_unheard]
  · simp only [Sample.num] at h
    simp only [Sample.measure, Measured.dist, h, distance_unheard]

end Distances

/-! ## The decision (lines 169-243) -/

/-- What a decision asks the thread to do, in the order of the source. -/
inductive Act where
  -- `if transferred_info != con: s_1.sendall(..); transferred_info = con`
  | publish (con : ParkingState)
  -- `s_1.sendall` of a `parking_location` message
  | location (m : Major)
  -- `gpio.output(26, high)`
  | output (high : Bool)
  deriving DecidableEq, Repr

/-- The locals of `BeaconFinder.run` that live across rounds. `location_data` is
`none` for the initial `-1`. -/
structure BeaconFinder (D : Type*) where
  f1_distance : D
  f2_distance : D
  location_data : Option Major
  count_1 : ℕ
  beacon_1_lost : ℕ
  beacon_2_lost : ℕ
  deriving DecidableEq, Repr

/-- What the body of a locked branch makes of a distance. -/
inductive Verdict where
  | connected
  | stolen
  | lost
  | safe
  deriving DecidableEq, Repr

namespace Verdict

/-- What the branches do to the counter of their beacon (lines 200, 206, 235, 240). -/
def count : Verdict → ℕ → ℕ
  | lost, beacon_lost => beacon_lost + 1
  | safe, _ => 0
  | _, beacon_lost => beacon_lost

/-- What the branches send and do (lines 181-184, 191-198, 202-205 and the same
lines of the other branch). -/
def acts : Verdict → List Act
  | connected => [.publish .safe]
  | stolen => [.publish .stolen, .output true, .output false]
  | lost => []
  | safe => [.publish .safe]

end Verdict

section Decision

variable {D : Type*} [Field D] [LinearOrder D]

/-- The tests of lines 179-201 and 215-236: a reference of `0.0` means that there
is none yet. -/
def verdict (tolerance f_distance distance : D) (beacon_lost : ℕ) : Verdict :=
  if f_distance = 0 then .connected
  else if tolerance < |distance - f_distance| then
    if 1 < beacon_lost then .stolen else .lost
  else .safe

namespace BeaconFinder

/-- Lines 109-114. -/
def init : BeaconFinder D := ⟨0, 0, none, 0, 0, 0⟩

/-- The deactivation branch, lines 246-249. -/
def deactivate (st : BeaconFinder D) : BeaconFinder D :=
  { st with f1_distance := 0, f2_distance := 0, count_1 := 0 }

/-- Lines 170-175: the beacon that is not locked gets the marker `100.0`. -/
def lock (st : BeaconFinder D) (d : Measured D) : BeaconFinder D :=
  if st.count_1 = 0 then
    if d.distance_1 < d.distance_2 then
      { st with f2_distance := 100, count_1 := st.count_1 + 1 }
    else
      { st with f1_distance := 100, count_1 := st.count_1 + 1 }
  else st

/-- Lines 178-206. -/
def branch_39 (st : BeaconFinder D) (distance_1 : D) : BeaconFinder D × List Act :=
  let v := verdict (Major.tolerance .m39) st.f1_distance distance_1 st.beacon_1_lost
  let st := { st with beacon_1_lost := v.count st.beacon_1_lost }
  if v = .connected then ({ st with f1_distance := distance_1, f2_distance := 100 }, v.acts)
  else (st, v.acts)

/-- Lines 214-240. -/
def branch_234 (st : BeaconFinder D) (distance_2 : D) : BeaconFinder D × List Act :=
  let v := verdict (Major.tolerance .m234) st.f2_distance distance_2 st.beacon_2_lost
  let st := { st with beacon_2_lost := v.count st.beacon_2_lost }
  if v = .connected then ({ st with f1_distance := 100, f2_distance := distance_2 }, v.acts)
  else (st, v.acts)

/-- Lines 209-211 and 241-243: the location is sent when it changes. -/
def locate (m : Major) (r : BeaconFinder D × List Act) : BeaconFinder D × List Act :=
  if r.1.location_data = some m then r
  else ({ r.1 with location_data := some m }, r.2 ++ [.location m])

/-- Lines 169-243. Which beacon is locked is read off the markers, `39` first. -/
def decision (st : BeaconFinder D) (d : Measured D) : BeaconFinder D × List Act :=
  let st := st.lock d
  if st.f2_distance = 100 then locate .m39 (st.branch_39 d.distance_1)
  else if st.f1_distance = 100 then locate .m234 (st.branch_234 d.distance_2)
  else (st, [])

/-- The beacon whose branch is run, by the tests of lines 177 and 213. -/
def branch (st : BeaconFinder D) : Option Major :=
  if st.f2_distance = 100 then some .m39
  else if st.f1_distance = 100 then some .m234
  else none

/-- The counter of consecutive rounds away from the reference, by beacon. -/
def beacon_lost (st : BeaconFinder D) : Major → ℕ
  | .m39 => st.beacon_1_lost
  | .m234 => st.beacon_2_lost

/-- No beacon is locked: what `init` and `deactivate` leave. -/
structure Fresh (st : BeaconFinder D) : Prop where
  count_1 : st.count_1 = 0
  f1_distance : st.f1_distance = 0
  f2_distance : st.f2_distance = 0

/-- The markers say that `m` is locked with reference `r`. The branch of `39` is
tried first, so a `234` reference must not look like its marker. -/
structure Locked (m : Major) (r : D) (st : BeaconFinder D) : Prop where
  count_1 : st.count_1 ≠ 0
  marker : match m with
    | .m39 => st.f2_distance = 100 ∧ st.f1_distance = r
    | .m234 => st.f1_distance = 100 ∧ st.f2_distance = r ∧ r ≠ 100
  pos : 0 < r

omit [LinearOrder D] in
theorem fresh_init : (init : BeaconFinder D).Fresh := ⟨rfl, rfl, rfl⟩

omit [LinearOrder D] in
theorem fresh_deactivate (st : BeaconFinder D) : st.deactivate.Fresh := ⟨rfl, rfl, rfl⟩

omit [LinearOrder D] in
@[simp] theorem beacon_lost_deactivate (st : BeaconFinder D) (m : Major) :
    st.deactivate.beacon_lost m = st.beacon_lost m := by cases m <;> rfl

theorem Fresh.not_locked {st : BeaconFinder D} (h : st.Fresh) {m : Major} {r : D} :
    ¬ st.Locked m r := fun hl => hl.count_1 h.count_1

omit [Field D] [LinearOrder D] in
/-- What a decision leaves of the counters and the markers is settled before
`locate`, which touches no local but `location_data`. -/
theorem locate_cases (m : Major) (r : BeaconFinder D × List Act) :
    (locate m r).1 = { r.1 with location_data := some m } ∧
      ((locate m r).2 = r.2 ∨ (locate m r).2 = r.2 ++ [.location m]) := by
  unfold locate
  split_ifs with h
  · refine ⟨?_, Or.inl rfl⟩
    rw [← h]
  · exact ⟨rfl, Or.inr rfl⟩

end BeaconFinder

end Decision

/-! ## What a decision does

Two lemmas, one for each kind of state a decision can be taken in. Everything the
later files say about rounds is derived from them; none unfolds `decision`. -/

section Spec

variable {D : Type*} [Field D] [LinearOrder D] [IsStrictOrderedRing D]

namespace Measured

/-- The reference the first decision takes is that of `234`, and exactly `100.0`: the
marker of `39`. -/
def Collides (d : Measured D) : Prop := d.nearer = .m234 ∧ d.distance_2 = 100

instance (d : Measured D) : Decidable d.Collides := inferInstanceAs (Decidable (_ ∧ _))

/-- The beacon whose branch the rounds after a lock on `d` run. It is the nearer
one, except that a `234` reference of exactly `100.0` is taken for the marker of
`39`. -/
def locked (d : Measured D) : Major :=
  if d.nearer = .m234 ∧ d.distance_2 = 100 then .m39 else d.nearer

omit [IsStrictOrderedRing D] in
theorem locked_eq_nearer {d : Measured D} (h : d.dist d.nearer ≠ 100) :
    d.locked = d.nearer := by
  unfold locked
  rw [if_neg]
  rintro ⟨hn, h2⟩
  rw [hn] at h
  exact h h2

end Measured

namespace BeaconFinder

/-- **The first decision of a session** locks the nearer beacon with its distance
as reference, leaves the counters alone and publishes `safe` first. -/
theorem decision_fresh {st : BeaconFinder D} (h : st.Fresh) (d : Measured D) :
    (st.decision d).1.Locked d.locked (d.dist d.nearer) ∧
      (∀ m, (st.decision d).1.beacon_lost m = st.beacon_lost m) ∧
      ∃ acts, (st.decision d).2 = .publish .safe :: acts ∧
        ∀ a ∈ acts, a = .location d.nearer := by
  obtain ⟨hc, hf1, hf2⟩ := h
  have h100 : (0 : D) ≠ 100 := by norm_num
  by_cases hlt : d.distance_1 < d.distance_2
  · have hn : d.nearer = .m39 := if_pos hlt
    have hb : (st.lock d).branch_39 d.distance_1
        = ({ st with f1_distance := d.distance_1, f2_distance := 100, count_1 := 1 },
            [.publish .safe]) := by
      simp [branch_39, lock, hc, hlt, hf1, verdict, Verdict.count, Verdict.acts]
    have hd : st.decision d = locate .m39 ((st.lock d).branch_39 d.distance_1) := by
      simp [decision, lock, hc, hlt]
    obtain ⟨hst, hacts⟩ := locate_cases .m39 ((st.lock d).branch_39 d.distance_1)
    rw [hb] at hst hacts
    rw [hd, hb, hst]
    refine ⟨⟨Nat.one_ne_zero, ?_, d.dist_pos _⟩, ?_, ?_⟩
    · simp [Measured.locked, hn, Measured.dist]
    · intro m; cases m <;> rfl
    · rcases hacts with ha | ha
      · exact ⟨[], ha, by simp⟩
      · exact ⟨[.location .m39], ha, by simp [hn]⟩
  · have hn : d.nearer = .m234 := if_neg hlt
    have hb : (st.lock d).branch_234 d.distance_2
        = ({ st with f1_distance := 100, f2_distance := d.distance_2, count_1 := 1 },
            [.publish .safe]) := by
      simp [branch_234, lock, hc, hlt, hf2, verdict, Verdict.count, Verdict.acts]
    have hd : st.decision d = locate .m234 ((st.lock d).branch_234 d.distance_2) := by
      simp [decision, lock, hc, hlt, hf2, h100]
    obtain ⟨hst, hacts⟩ := locate_cases .m234 ((st.lock d).branch_234 d.distance_2)
    rw [hb] at hst hacts
    rw [hd, hb, hst]
    refine ⟨⟨Nat.one_ne_zero, ?_, d.dist_pos _⟩, ?_, ?_⟩
    · by_cases h2 : d.distance_2 = 100
      · simp [Measured.locked, hn, h2, Measured.dist]
      · simp [Measured.locked, hn, h2, Measured.dist]
    · intro m; cases m <;> rfl
    · rcases hacts with ha | ha
      · exact ⟨[], ha, by simp⟩
      · exact ⟨[.location .m234], ha, by simp [hn]⟩

omit [IsStrictOrderedRing D] in
/-- **Every later decision** judges the locked beacon against the recorded
reference, which it keeps, and touches no other counter. -/
theorem decision_locked {st : BeaconFinder D} {m : Major} {r : D} (h : st.Locked m r)
    (d : Measured D) :
    let v := verdict m.tolerance r (d.dist m) (st.beacon_lost m)
    (st.decision d).1.Locked m r ∧
      (st.decision d).1.beacon_lost m = v.count (st.beacon_lost m) ∧
      ((st.decision d).2 = v.acts ∨ (st.decision d).2 = v.acts ++ [.location m]) := by
  obtain ⟨hc, hm, hr⟩ := h
  have hlock : st.lock d = st := if_neg hc
  cases m with
  | m39 =>
    obtain ⟨hf2, hf1⟩ := hm
    intro v
    have hv : v ≠ .connected := by
      simp only [v, verdict, if_neg hr.ne']
      split_ifs <;> simp
    have hb : st.branch_39 d.distance_1
        = ({ st with beacon_1_lost := v.count st.beacon_1_lost }, v.acts) := by
      simp only [branch_39, hf1]
      exact if_neg hv
    have hd : st.decision d = locate .m39 (st.branch_39 d.distance_1) := by
      simp [decision, hlock, hf2]
    obtain ⟨hst, hacts⟩ := locate_cases .m39 (st.branch_39 d.distance_1)
    rw [hb] at hst hacts
    rw [hd, hb, hst]
    exact ⟨⟨hc, ⟨hf2, hf1⟩, hr⟩, rfl, hacts⟩
  | m234 =>
    obtain ⟨hf1, hf2, hne⟩ := hm
    intro v
    have hv : v ≠ .connected := by
      simp only [v, verdict, if_neg hr.ne']
      split_ifs <;> simp
    have hb : st.branch_234 d.distance_2
        = ({ st with beacon_2_lost := v.count st.beacon_2_lost }, v.acts) := by
      simp only [branch_234, hf2]
      exact if_neg hv
    have hd : st.decision d = locate .m234 (st.branch_234 d.distance_2) := by
      simp [decision, hlock, hf2, hne, hf1]
    obtain ⟨hst, hacts⟩ := locate_cases .m234 (st.branch_234 d.distance_2)
    rw [hb] at hst hacts
    rw [hd, hb, hst]
    exact ⟨⟨hc, ⟨hf1, hf2, hne⟩, hr⟩, rfl, hacts⟩

end BeaconFinder

end Spec

end SmartBike.Parking
