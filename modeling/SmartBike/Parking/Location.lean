/-
Which beacon a session is locked on, and the `parking_location` messages.

The finder does not store the beacon it has locked on: every round reads it off the two
references, one of which is meant to be the marker `100.0`. `branch` is that reading.
What it finds in a later round is settled by the first one (`branch_later`), and it is
the beacon locked there unless that beacon is `234` at a distance of exactly `100.0`,
which is the marker of `39`.

The messages are those of a sender on change (`locations_run`) that is given the branch
of every round.
-/
import SmartBike.Lib.OnChange
import SmartBike.Parking.Threads

set_option autoImplicit false

open Runs OnChange

namespace SmartBike.Parking

/-- The `parking_location` messages among what a decision asks for. -/
def Act.locations (acts : List Act) : List Major :=
  acts.filterMap fun
    | .location m => some m
    | _ => none

@[simp] theorem Act.locations_append (l l' : List Act) :
    locations (l ++ l') = locations l ++ locations l' := List.filterMap_append

@[simp] theorem Act.locations_verdict (v : Verdict) : locations v.acts = [] := by
  cases v <;> rfl

/-- The `parking_location` messages among what was written. -/
def Message.locations (sent : List Message) : List Major :=
  sent.filterMap fun
    | .parking_location m => some m
    | .parking_state _ => none

@[simp] theorem Message.locations_append (l l' : List Message) :
    locations (l ++ l') = locations l ++ locations l' := List.filterMap_append

/-! ## The branch of a round -/

namespace BeaconFinder

section Branch

variable {D : Type*} [Field D] [LinearOrder D]

/-- `f1_distance` or `f2_distance`, by the beacon it belongs to. -/
def reference (st : BeaconFinder D) : Major → D
  | .m39 => st.f1_distance
  | .m234 => st.f2_distance

/-- The branch of a beacon, `branch_39` or `branch_234`. -/
def judge (st : BeaconFinder D) (d : Measured D) : Major → BeaconFinder D × List Act
  | .m39 => st.branch_39 d.distance_1
  | .m234 => st.branch_234 d.distance_2

theorem decision_eq_judge {st : BeaconFinder D} {d : Measured D} {m : Major}
    (h : (st.lock d).branch = some m) :
    st.decision d = locate m ((st.lock d).judge d m) := by
  unfold branch at h
  simp only [decision]
  split_ifs at h with h2 h1
  · obtain rfl : Major.m39 = m := Option.some.inj h
    rw [if_pos h2]
    rfl
  · obtain rfl : Major.m234 = m := Option.some.inj h
    rw [if_neg h2, if_pos h1]
    rfl

theorem lock_location_data (st : BeaconFinder D) (d : Measured D) :
    (st.lock d).location_data = st.location_data := by
  unfold lock
  split_ifs <;> rfl

/-- A branch sends no location. -/
theorem judge_location (st : BeaconFinder D) (d : Measured D) (m : Major) :
    (st.judge d m).1.location_data = st.location_data ∧
      Act.locations (st.judge d m).2 = [] := by
  cases m with
  | m39 =>
    simp only [judge, branch_39]
    split_ifs
    · exact ⟨rfl, Act.locations_verdict _⟩
    · exact ⟨rfl, Act.locations_verdict _⟩
  | m234 =>
    simp only [judge, branch_234]
    split_ifs
    · exact ⟨rfl, Act.locations_verdict _⟩
    · exact ⟨rfl, Act.locations_verdict _⟩

/-- **The location of a round** is that of its branch, sent when it is a new one. -/
theorem decision_location {st : BeaconFinder D} {d : Measured D} {m : Major}
    (h : (st.lock d).branch = some m) :
    (st.decision d).1.location_data = some m ∧
      Act.locations (st.decision d).2 = if st.location_data = some m then [] else [m] := by
  obtain ⟨hdata, hacts⟩ := (st.lock d).judge_location d m
  rw [lock_location_data] at hdata
  rw [decision_eq_judge h, locate, hdata]
  by_cases hm : st.location_data = some m
  · rw [if_pos hm, if_pos hm]
    exact ⟨hdata.trans hm, hacts⟩
  · rw [if_neg hm, if_neg hm, Act.locations_append, hacts]
    exact ⟨rfl, rfl⟩

theorem Locked.reference {st : BeaconFinder D} {m : Major} {r : D} (h : st.Locked m r) :
    st.reference m = r := by
  cases m with
  | m39 => exact h.marker.2
  | m234 => exact h.marker.2.1

theorem Locked.branch {st : BeaconFinder D} {m : Major} {r : D} (h : st.Locked m r) :
    st.branch = some m := by
  unfold BeaconFinder.branch
  cases m with
  | m39 => exact if_pos h.marker.1
  | m234 =>
    obtain ⟨h1, h2, hne⟩ := h.marker
    rw [if_neg (by rw [h2]; exact hne), if_pos h1]

theorem lock_of_locked {st : BeaconFinder D} {m : Major} {r : D} (h : st.Locked m r)
    (d : Measured D) : st.lock d = st := if_neg h.count_1

end Branch

section Ordered

variable {D : Type*} [Field D] [LinearOrder D] [IsStrictOrderedRing D]

/-- **The first round** runs the branch of the nearer beacon. -/
theorem branch_fresh {st : BeaconFinder D} (h : st.Fresh) (d : Measured D) :
    (st.lock d).branch = some d.nearer := by
  have h100 : (0 : D) ≠ 100 := by norm_num
  unfold branch lock Measured.nearer
  rw [if_pos h.count_1]
  by_cases hlt : d.distance_1 < d.distance_2
  · rw [if_pos hlt, if_pos hlt, if_pos rfl]
  · rw [if_neg hlt, if_neg hlt]
    dsimp only
    rw [h.f2_distance, if_neg h100, if_pos rfl]

/-- The first round takes the distance of the nearer beacon as its reference and marks
the other one. -/
theorem reference_fresh {st : BeaconFinder D} (h : st.Fresh) (d : Measured D) :
    (st.decision d).1.reference d.nearer = d.dist d.nearer ∧
      (st.decision d).1.reference d.nearer.other = 100 := by
  obtain ⟨hl, -, -⟩ := decision_fresh h d
  by_cases hc : d.Collides
  · obtain ⟨hn, h2⟩ := hc
    have hr : d.dist d.nearer = 100 := by rw [hn]; exact h2
    rw [show d.locked = .m39 from if_pos ⟨hn, h2⟩, hr] at hl
    rw [hr, hn]
    exact ⟨hl.marker.1, hl.marker.2⟩
  · rw [(locked_eq_nearer_iff d).mpr hc] at hl
    refine ⟨hl.reference, ?_⟩
    have hmark := hl.marker
    cases hn : d.nearer with
    | m39 => rw [hn] at hmark; exact hmark.1
    | m234 => rw [hn] at hmark; exact hmark.1

end Ordered

end BeaconFinder

/-! ## The rounds of a session -/

section Sessions

variable {D : Type*} [Field D] [LinearOrder D]

/-- The round `d`, in a session whose first round was `l`, is evaluated by the branch of
the beacon locked there, and the reference taken there stays. -/
def Evaluated (st : BeaconFinder D) (d l : Measured D) : Prop :=
  (st.lock d).branch = some l.nearer ∧
    st.reference l.nearer = l.dist l.nearer ∧
    (st.decision d).1.reference l.nearer = l.dist l.nearer

/-- The beacon a round locks on, if it is the first of its session. -/
def locking (h : List (Measured D)) : Iteration D → List Major
  | .round d => if h = [] then [d.nearer] else []
  | _ => []

/-- The beacons locked on in a run, one for each session that has a round. -/
def locked_beacons (its : List (Iteration D)) : List Major := emitted record locking [] its

theorem locked_beacons_concat (its : List (Iteration D)) (it : Iteration D) :
    locked_beacons (its ++ [it]) = locked_beacons its ++ locking (session its) it :=
  emitted_concat locking [] its it

/-- The branch a pass runs, if it decides. -/
def branches (st : BeaconFinder D) : Iteration D → List Major
  | .round d => (st.lock d).branch.toList
  | _ => []

/-- The locations a pass sends. -/
def sends (st : BeaconFinder D) : Iteration D → List Major
  | .round d => Act.locations (st.decision d).2
  | _ => []

/-- A pass, with the locations sent so far. -/
def announce (s : BeaconFinder D × List Major) (it : Iteration D) : BeaconFinder D × List Major :=
  (s.1.iterate it, s.2 ++ sends s.1 it)

/-- **The location messages are sent on change**: what is sent, and `location_data`, are
those of a sender that is given the branch of every round. -/
def located : Refinement (announce (D := D)) (Sender.update (α := Major)) where
  abs s := ⟨s.1.location_data, s.2⟩
  emit s := branches s.1
  abs_step s it := by
    obtain ⟨st, sent⟩ := s
    cases it with
    | deactivate => simp [announce, branches, sends, BeaconFinder.iterate, BeaconFinder.deactivate]
    | interrupted => simp [announce, branches, sends, BeaconFinder.iterate]
    | round d =>
      simp only [announce, branches, sends, BeaconFinder.iterate]
      cases hb : (st.lock d).branch with
      | none =>
        have hd : st.decision d = (st.lock d, []) := by
          unfold BeaconFinder.branch at hb
          simp only [BeaconFinder.decision]
          split_ifs at hb with h2 h1
          rw [if_neg h2, if_neg h1]
        rw [hd, BeaconFinder.lock_location_data]
        simp [Act.locations]
      | some m =>
        obtain ⟨hdata, hacts⟩ := BeaconFinder.decision_location hb
        rw [hdata, hacts, Option.toList_some, run_cons, run_nil, Sender.update]
        by_cases hm : st.location_data = some m
        · simp [hm]
        · simp [hm]

/-- The locations a run sends. -/
def announced (its : List (Iteration D)) : List Major :=
  (run announce (BeaconFinder.init, []) its).2

theorem announce_fst (its : List (Iteration D)) (s : BeaconFinder D × List Major) :
    (run announce s its).1 = run BeaconFinder.iterate s.1 its := by
  induction its generalizing s with
  | nil => rfl
  | cons it its ih => rw [run_cons, ih, run_cons, announce]

/-- The branches of a run, one for each round. -/
def evaluated (its : List (Iteration D)) : List Major := located.trace (BeaconFinder.init, []) its

theorem evaluated_concat (its : List (Iteration D)) (it : Iteration D) :
    evaluated (its ++ [it])
      = evaluated its ++ branches (run BeaconFinder.iterate BeaconFinder.init its) it := by
  have h : evaluated (its ++ [it])
      = evaluated its ++ branches (run announce (BeaconFinder.init, []) its).1 it :=
    emitted_concat _ _ its it
  rw [announce_fst] at h
  exact h

/-- **What a run sends** is the sequence of its branches with consecutive repetitions
removed. -/
theorem announced_eq (its : List (Iteration D)) :
    announced its = (evaluated its).destutter (· ≠ ·) := by
  have h := located.abs_run ((BeaconFinder.init : BeaconFinder D), ([] : List Major)) its
  change located.abs _ = run Sender.update Sender.init _ at h
  rw [Sender.run_update] at h
  exact congrArg Sender.sent h

/-- The beacon locked last is that of the current session. -/
theorem getLast?_locked_beacons {its : List (Iteration D)} {l : Measured D}
    (h : (session its).getLast? = some l) : (locked_beacons its).getLast? = some l.nearer := by
  induction its using List.reverseRecOn generalizing l with
  | nil => simp [session] at h
  | append_singleton its it ih =>
    rw [session, run_concat] at h
    rw [locked_beacons_concat]
    cases it with
    | deactivate => simp [record] at h
    | interrupted => simpa [locking] using ih h
    | round d =>
      by_cases hs : session its = []
      · rw [session] at hs
        rw [hs, record, List.getLast?_singleton, Option.some.injEq] at h
        rw [locking, session, if_pos hs, List.getLast?_concat, h]
      · rw [locking, if_neg hs, List.append_nil]
        apply ih
        obtain ⟨e, rest, he⟩ := List.exists_cons_of_ne_nil hs
        rw [session] at he ⊢
        rw [he, record, List.getLast?_cons_cons] at h
        rw [he, h]

/-! ## The lock -/

/-- Nothing is locked before the first round of a session, and after it what that round
has left is. -/
def Holds (h : List (Measured D)) (st : BeaconFinder D) : Prop :=
  (h = [] ∧ st.Fresh) ∨ ∃ l, h.getLast? = some l ∧ st.Locked l.locked (l.dist l.nearer)

section Ordered

variable [IsStrictOrderedRing D]

theorem holds_iterate {h : List (Measured D)} {st : BeaconFinder D} (hs : Holds h st)
    (it : Iteration D) : Holds (record h it) (st.iterate it) := by
  cases it with
  | deactivate => exact Or.inl ⟨rfl, st.fresh_deactivate⟩
  | interrupted => exact hs
  | round d =>
    right
    rcases hs with ⟨rfl, hf⟩ | ⟨l, hl, hlock⟩
    · exact ⟨d, rfl, (BeaconFinder.decision_fresh hf d).1⟩
    · refine ⟨l, ?_, (BeaconFinder.decision_locked hlock d).1⟩
      obtain ⟨e, rest, rfl⟩ := List.exists_cons_of_ne_nil
        (show h ≠ [] from fun hnil => by rw [hnil] at hl; simp at hl)
      rw [record, List.getLast?_cons_cons, hl]

/-- **What a run keeps**: the lock of the first round, as the markers tell it. -/
theorem holds_run (its : List (Iteration D)) :
    Holds (session its) (run BeaconFinder.iterate BeaconFinder.init its) := by
  induction its using List.reverseRecOn with
  | nil => exact Or.inl ⟨rfl, BeaconFinder.fresh_init⟩
  | append_singleton its it ih =>
    rw [session, run_concat, run_concat]
    exact holds_iterate ih it

/-- In a session that has begun, the first round is the lock. -/
theorem locked_of_session {its : List (Iteration D)} {l : Measured D}
    (h : (session its).getLast? = some l) :
    (run BeaconFinder.iterate BeaconFinder.init its).Locked l.locked (l.dist l.nearer) := by
  rcases holds_run its with ⟨hnil, -⟩ | ⟨l', hl', hlock⟩
  · rw [hnil] at h
    simp at h
  · rw [h, Option.some.injEq] at hl'
    rwa [hl']

omit [IsStrictOrderedRing D] in
/-- **A later round** is evaluated as it should be exactly if the lock was not on `234`
at `100.0`. -/
theorem evaluated_iff {st : BeaconFinder D} {l : Measured D}
    (h : st.Locked l.locked (l.dist l.nearer)) (d : Measured D) :
    Evaluated st d l ↔ ¬ l.Collides := by
  rw [← locked_eq_nearer_iff]
  unfold Evaluated
  rw [BeaconFinder.lock_of_locked h, h.branch, Option.some.injEq]
  constructor
  · exact fun he => he.1
  · intro hn
    have hafter := (BeaconFinder.decision_locked h d).1
    rw [hn] at h hafter
    exact ⟨hn, h.reference, hafter.reference⟩

/-- A later round of a session does not come after a lock on `234` at `100.0`. -/
def KeepsLock (h : List (Measured D)) : Iteration D → Prop
  | .round _ => ∀ l, h.getLast? = some l → ¬ l.Collides
  | _ => True

/-- **What a run sends, without collisions**: the locked beacons, repetitions removed. -/
theorem destutter_evaluated {its : List (Iteration D)} (h : Steps record KeepsLock [] its) :
    (evaluated its).getLast? = (locked_beacons its).getLast? ∧
      (evaluated its).destutter (· ≠ ·) = (locked_beacons its).destutter (· ≠ ·) := by
  induction its using List.reverseRecOn with
  | nil => exact ⟨rfl, rfl⟩
  | append_singleton its it ih =>
    rw [steps_concat] at h
    obtain ⟨hlast, heq⟩ := ih h.1
    rw [evaluated_concat, locked_beacons_concat]
    cases it with
    | deactivate => simpa [branches, locking] using ⟨hlast, heq⟩
    | interrupted => simpa [branches, locking] using ⟨hlast, heq⟩
    | round d =>
      rcases hs : (session its).getLast? with _ | l
      · -- the first round of a session
        rw [List.getLast?_eq_none_iff] at hs
        have hb := BeaconFinder.branch_fresh (fresh_of_session_nil hs) d
        rw [branches, hb, Option.toList_some, locking, if_pos hs]
        rw [destutter_concat, destutter_concat, hlast, heq]
        exact ⟨by rw [List.getLast?_concat, List.getLast?_concat], rfl⟩
      · -- a later one, which runs the branch of the lock
        have hlock := locked_of_session hs
        have hne : session its ≠ [] := by
          intro hnil
          rw [hnil] at hs
          simp at hs
        have hn := (locked_eq_nearer_iff l).mpr (h.2 l hs)
        rw [branches, BeaconFinder.lock_of_locked hlock, hlock.branch, Option.toList_some, hn,
          locking, if_neg hne, List.append_nil, destutter_concat, hlast, getLast?_locked_beacons hs,
          if_pos rfl, List.getLast?_concat]
        exact ⟨rfl, heq⟩

end Ordered

end Sessions

/-! ## The program -/

namespace Writer

/-- An access writes the location it takes off the acts to come. -/
theorem locations_step (w : Writer) (sh : Shared) :
    Message.locations (w.step sh).2.sent ++ Act.locations (w.step sh).1.todo
      = Message.locations sh.sent ++ Act.locations w.todo := by
  obtain ⟨phase, todo⟩ := w
  cases phase with
  | checked con => simp [step, Message.locations]
  | sent con => rfl
  | idle =>
    rcases todo with _ | ⟨act, rest⟩
    · rfl
    · cases act with
      | location m => simp [step, Message.locations, Act.locations]
      | output high => simp [step, Act.locations]
      | publish con =>
        simp only [step]
        split_ifs
        · simp [Act.locations]
        · simp [Act.locations]

/-- Without a location to come, none comes. -/
theorem locations_step_nil {w : Writer} (h : Act.locations w.todo = []) (sh : Shared) :
    Act.locations (w.step sh).1.todo = [] := by
  obtain ⟨phase, todo⟩ := w
  cases phase with
  | checked con => exact h
  | sent con => exact h
  | idle =>
    rcases todo with _ | ⟨act, rest⟩
    · exact h
    · cases act with
      | location m => simp [Act.locations] at h
      | output high => simpa [step, Act.locations] using h
      | publish con =>
        simp only [step]
        split_ifs
        · simpa [Act.locations] using h
        · simpa [Act.locations] using h

end Writer

namespace Threads

variable {D : Type*} [Field D] [LinearOrder D]

/-- The locations a thread has still to send. -/
def pending (t : Threads D) (i : Thread) : List Major := Act.locations (t.writer i).todo

/-- The locations sent and still to be sent by the finder. -/
def locating (t : Threads D) : List Major :=
  Message.locations t.shared.sent ++ t.pending .beacon_finder

section Program

variable [IsStrictOrderedRing D] (P : Power D)

omit [Field D] [LinearOrder D] [IsStrictOrderedRing D] in
/-- `BeaconCondition` sends no location. -/
theorem pending_beacon_condition {t : Threads D} (h : t.pending .beacon_condition = []) :
    t.beacon_condition.pending .beacon_condition = [] ∧
      t.beacon_condition.locating = t.locating := by
  have hwrite : ∀ w : Writer, Act.locations w.todo = [] →
      Message.locations (w.step t.shared).2.sent = Message.locations t.shared.sent := by
    intro w hw
    have hstep := w.locations_step t.shared
    rwa [Writer.locations_step_nil hw, hw, List.append_nil, List.append_nil] at hstep
  unfold pending writer at h
  unfold beacon_condition locating pending writer
  cases hpc : t.condition_pc with
  | start => exact ⟨rfl, rfl⟩
  | outer => dsimp only; split_ifs <;> exact ⟨rfl, rfl⟩
  | polled => dsimp only; split_ifs <;> exact ⟨rfl, rfl⟩
  | save => exact ⟨rfl, rfl⟩
  | nobeacon w =>
    rw [hpc] at h
    dsimp only at h ⊢
    split_ifs
    · exact ⟨rfl, rfl⟩
    · exact ⟨Writer.locations_step_nil h _, by dsimp only; rw [hwrite w h]⟩
  | deactivate w =>
    rw [hpc] at h
    dsimp only at h ⊢
    split_ifs
    · exact ⟨rfl, rfl⟩
    · exact ⟨Writer.locations_step_nil h _, by dsimp only; rw [hwrite w h]⟩

/-- A step of the finder sends, or takes on to send, the locations of the pass it
completes. -/
theorem locating_beacon_finder (t : Threads D) (returnList : List Beacon) :
    (t.beacon_finder P returnList).locating
      = (run announce (t.finder, t.locating) (iteration P t (.beacon_finder returnList))).2 := by
  unfold beacon_finder iteration locating pending writer
  cases hpc : t.finder_pc with
  | outer => dsimp only; split_ifs <;> simp [announce, sends]
  | sampling s => rfl
  | listening s rest =>
    cases rest with
    | nil => dsimp only; split_ifs <;> rfl
    | cons bea rest => rfl
  | post s =>
    dsimp only
    split_ifs
    · simp [announce, sends]
    · simp [announce, sends, Writer.start, Act.locations]
  | acting w =>
    dsimp only
    split_ifs with hdone
    · simp [hdone.2, Writer.start]
    · exact w.locations_step t.shared

/-- The passes of a run, one step further. -/
theorem trace_concat (labels : List Label) (l : Label) :
    (iterations P).trace (init : Threads D) (labels ++ [l])
      = (iterations P).trace init labels ++ iteration P (run (step P) init labels) l :=
  emitted_concat _ _ labels l

/-- **The locations of a run** are those of the passes the finder has completed. -/
theorem locating_run (labels : List Label) :
    (run (step P) (init : Threads D) labels).pending .beacon_condition = [] ∧
      (run (step P) (init : Threads D) labels).locating
        = announced ((iterations P).trace (init : Threads D) labels) := by
  induction labels using List.reverseRecOn with
  | nil => exact ⟨rfl, rfl⟩
  | append_singleton labels l ih =>
    obtain ⟨hquiet, hloc⟩ := ih
    have hfinder := (iterations P).abs_run (init : Threads D) labels
    change (run (step P) init labels).finder = _ at hfinder
    rw [run_concat, trace_concat]
    unfold announced at hloc ⊢
    have hpair : run announce (BeaconFinder.init, [])
          ((iterations P).trace (init : Threads D) labels)
        = ((run (step P) (init : Threads D) labels).finder,
            (run (step P) (init : Threads D) labels).locating) := by
      refine Prod.ext ?_ hloc.symm
      rw [announce_fst, hfinder]
      rfl
    rw [run_append, hpair]
    cases l with
    | mode_check info => exact ⟨hquiet, rfl⟩
    | beacon_finder returnList =>
      refine ⟨?_, locating_beacon_finder P _ returnList⟩
      change ((run (step P) init labels).beacon_finder P returnList).pending .beacon_condition = []
      unfold pending at hquiet ⊢
      rw [(beacon_finder_effect P _ returnList).other .beacon_condition (by simp), hquiet]
    | beacon_condition => exact pending_beacon_condition hquiet

/-- In the state before the decision on `s`, a round of this session has been decided,
and the first such round was `l`. -/
structure LaterRound (t : Threads D) (its : List (Iteration D)) (s : Sample) (l : Measured D) :
    Prop where
  post : t.finder_pc = .post s
  info : t.shared.info ≠ some 0
  first : (session its).getLast? = some l

/-- Later rounds of the program are later rounds of its passes. -/
theorem steps_keepsLock {labels : List Label}
    (h : ∀ pre returnList post, labels = pre ++ .beacon_finder returnList :: post → ∀ s l,
      LaterRound (run (step P) (init : Threads D) pre) ((iterations P).trace (init : Threads D) pre)
        s l → ¬ l.Collides) :
    Steps record KeepsLock [] ((iterations P).trace (init : Threads D) labels) := by
  induction labels using List.reverseRecOn with
  | nil => trivial
  | append_singleton labels l ih =>
    rw [trace_concat, steps_append]
    refine ⟨ih fun pre returnList post hpre => ?_, ?_⟩
    · exact h pre returnList (post ++ [l]) (by rw [hpre]; simp)
    · cases l with
      | mode_check info => trivial
      | beacon_condition => trivial
      | beacon_finder returnList =>
        unfold iteration
        dsimp only
        split
        · split_ifs
          · trivial
          · exact ⟨trivial, trivial⟩
        · rename_i s hpc
          split_ifs with hinfo
          · exact ⟨trivial, trivial⟩
          · exact ⟨fun l hl => h labels returnList [] rfl s l ⟨hpc, hinfo, hl⟩, trivial⟩
        · trivial

/-- **The lock is stable, and the messages follow it**, up to one kind of session. In a
run, every later round of a session is evaluated by the branch of the beacon locked in
the first one, with its reference unchanged, and the locations sent or about to be sent
are at all times the locked beacons, consecutive repetitions removed: exactly when no
session whose first round locks `234` at a distance of `100.0` has another round. -/
theorem lock_stable_iff (labels : List Label) :
    ((∀ pre returnList post, labels = pre ++ .beacon_finder returnList :: post → ∀ s l,
        LaterRound (run (step P) (init : Threads D) pre)
          ((iterations P).trace (init : Threads D) pre) s l →
        Evaluated (run (step P) (init : Threads D) pre).finder (s.measure P) l) ∧
      (∀ pre, pre <+: labels →
        (run (step P) (init : Threads D) pre).locating
          = (locked_beacons ((iterations P).trace init pre)).destutter (· ≠ ·))) ↔
      ∀ pre returnList post, labels = pre ++ .beacon_finder returnList :: post → ∀ s l,
        LaterRound (run (step P) (init : Threads D) pre)
          ((iterations P).trace (init : Threads D) pre) s l → ¬ l.Collides := by
  -- the locals in a later round are locked as the first round has left them
  have hlocked : ∀ pre s l, LaterRound (run (step P) (init : Threads D) pre)
      ((iterations P).trace (init : Threads D) pre) s l →
      (run (step P) (init : Threads D) pre).finder.Locked l.locked (l.dist l.nearer) := by
    intro pre s l hl
    have hfinder := (iterations P).abs_run (init : Threads D) pre
    change (run (step P) init pre).finder = _ at hfinder
    rw [hfinder]
    exact locked_of_session hl.first
  constructor
  · rintro ⟨hevaluated, -⟩ pre returnList post hpre s l hl
    have h := hevaluated pre returnList post hpre s l hl
    exact (evaluated_iff (hlocked pre s l hl) (s.measure P)).mp h
  · intro hkeeps
    refine ⟨fun pre returnList post hpre s l hl => ?_, fun pre hpre => ?_⟩
    · have h := hkeeps pre returnList post hpre s l hl
      exact (evaluated_iff (hlocked pre s l hl) (s.measure P)).mpr h
    · obtain ⟨rest, rfl⟩ := hpre
      have hsteps : Steps record KeepsLock [] ((iterations P).trace (init : Threads D) pre) := by
        refine steps_keepsLock P fun pre' returnList post hpre' => ?_
        exact hkeeps pre' returnList (post ++ rest) (by rw [hpre']; simp)
      rw [(locating_run P pre).2, announced_eq, (destutter_evaluated hsteps).2]

end Program

/-! ## Two rounds -/

/-- A session that hears ten advertisements of `39` at one metre, twice. -/
def near_twice : List Label :=
  .mode_check 1 ::
    (.beacon_finder [] :: .beacon_finder ten_near :: List.replicate 17 (.beacon_finder [])) ++
    (.beacon_finder [] :: .beacon_finder ten_near :: List.replicate 14 (.beacon_finder []))

/-- The second round runs the branch of `39` again, and nothing more is sent. -/
theorem lock_stable_near_twice :
    (∀ pre, pre <+: near_twice → (run (step Power.floor) init pre).locating
      = (locked_beacons ((iterations Power.floor).trace init pre)).destutter (· ≠ ·)) ∧
    (run (step Power.floor) init near_twice).locating = [.m39] := by
  have hkeeps : ∀ pre ∈ near_twice.inits,
      ((session ((iterations Power.floor).trace init pre)).getLast?).all
        (fun l => ¬ l.Collides) = true := by
    decide +kernel
  refine ⟨((lock_stable_iff Power.floor near_twice).mpr ?_).2, by decide +kernel⟩
  intro pre returnList post hpre s l hl
  have h := hkeeps pre (List.mem_inits _ _ |>.mpr ⟨_, hpre.symm⟩)
  rw [hl.first] at h
  simpa using h

/-- Ten advertisements of `234` from a hundred metres, and of `39` none. -/
def ten_at_100 : List Beacon := List.replicate 10 ⟨234, -59, -99⟩

/-- A session that hears `ten_at_100` twice. -/
def heard_at_100 : List Label :=
  .mode_check 1 ::
    (.beacon_finder [] :: .beacon_finder ten_at_100 :: List.replicate 17 (.beacon_finder [])) ++
    (.beacon_finder [] :: .beacon_finder ten_at_100 :: List.replicate 15 (.beacon_finder []))

/-- The session has locked on `234` only, and the second round sends `39`. -/
theorem lock_taken_for_39 :
    (locked_beacons ((iterations Power.floor).trace init heard_at_100)).destutter (· ≠ ·)
        = [.m234] ∧
      (run (step Power.floor) init heard_at_100).finder_pc = .outer ∧
      Message.locations (run (step Power.floor) init heard_at_100).shared.sent = [.m234, .m39] := by
  decide +kernel

end Threads

end SmartBike.Parking
