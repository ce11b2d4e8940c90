/-
The threads of `parking_thread.py` as one system.

`ModeCheck`, `BeaconFinder` and `BeaconCondition` share the globals `info`,
`transferred_info` and `stop_check` and the socket `s_1`, without a lock. Each of
the two loops is a program counter over the places where it reads or writes
something shared; a step of the system is one such access by one thread
(`Threads.step`), and the label says which thread moves and what `recv` or
`parse_events` hands it. A list of labels is therefore an interleaving together
with all the inputs.

Two readings of a run are proved here. The locals of the finder go through the
iterations of `Theft.lean` (`iterations`), and the publications are an instance of
the check-send-assign sequence of the library (`publications`).
-/
import SmartBike.Lib.CheckSend
import SmartBike.Parking.Theft

set_option autoImplicit false

open Runs CheckSend

namespace SmartBike.Parking

/-! ## Shared state -/

/-- What is written on `s_1`. -/
inductive Message where
  | parking_state (con : ParkingState)
  | parking_location (con : Major)
  deriving DecidableEq, Repr

/-- The globals, the messages written on `s_1`, oldest first, and pin 26. `info` and
`transferred_info` are `none` for the initial `""`; so is `stop_check`, whose initial
`0.0` is overwritten before anyone reads it. -/
structure Shared where
  info : Option ℤ
  transferred_info : Option ParkingState
  stop_check : Option ℤ
  sent : List Message
  buzzer : Bool
  deriving DecidableEq, Repr

def Shared.init : Shared := ⟨none, none, none, [], false⟩

/-- The `parking_state` messages among what was written. -/
def Message.states (sent : List Message) : List ParkingState :=
  sent.filterMap fun
    | .parking_state con => some con
    | .parking_location _ => none

@[simp] theorem Message.states_append (l l' : List Message) :
    states (l ++ l') = states l ++ states l' := List.filterMap_append

@[simp] theorem Message.states_state (con : ParkingState) :
    states [.parking_state con] = [con] := rfl

@[simp] theorem Message.states_location (m : Major) : states [.parking_location m] = [] := rfl

/-! ## Publications -/

/-- A thread inside its publications: where it is in the current one, and the acts
still to come. -/
structure Writer where
  phase : Phase ParkingState
  todo : List Act
  deriving DecidableEq, Repr

namespace Writer

def start (acts : List Act) : Writer := ⟨.idle, acts⟩

/-- Nothing is left to do. -/
def Done (w : Writer) : Prop := w.phase = .idle ∧ w.todo = []

instance (w : Writer) : Decidable w.Done := inferInstanceAs (Decidable (_ ∧ _))

/-- One access: the test of `transferred_info`, a `sendall`, an assignment, or an
edge of pin 26. -/
def step (w : Writer) (sh : Shared) : Writer × Shared :=
  match w.phase with
  | .checked con => (⟨.sent con, w.todo⟩, { sh with sent := sh.sent ++ [.parking_state con] })
  | .sent con => (⟨.idle, w.todo⟩, { sh with transferred_info := some con })
  | .idle =>
    match w.todo with
    | [] => (w, sh)
    | .publish con :: rest =>
      if sh.transferred_info = some con then (⟨.idle, rest⟩, sh) else (⟨.checked con, rest⟩, sh)
    | .location m :: rest => (⟨.idle, rest⟩, { sh with sent := sh.sent ++ [.parking_location m] })
    | .output high :: rest => (⟨.idle, rest⟩, { sh with buzzer := high })

/-- The `con` whose test is the next access. -/
def testing (w : Writer) : Option ParkingState :=
  match w.phase, w.todo with
  | .idle, .publish con :: _ => some con
  | _, _ => none

/-- The `con` whose `sendall` is the next access. -/
def sending (w : Writer) : Option ParkingState :=
  match w.phase with
  | .checked con => some con
  | _ => none

/-- The access as a move of the check-send-assign protocol, if it is one. -/
def move {ι : Type*} (w : Writer) (i : ι) : List (Move ι ParkingState) :=
  match w.phase with
  | .checked _ => [.send i]
  | .sent _ => [.assign i]
  | .idle =>
    match w.todo with
    | .publish con :: _ => [.test i con]
    | _ => []

/-- A publication reads and writes nothing but `transferred_info` and `sent`. -/
theorem step_frame (w : Writer) (sh : Shared) :
    (w.step sh).2.info = sh.info ∧ (w.step sh).2.stop_check = sh.stop_check := by
  unfold step
  rcases w with ⟨phase, todo⟩
  cases phase with
  | checked con => exact ⟨rfl, rfl⟩
  | sent con => exact ⟨rfl, rfl⟩
  | idle =>
    rcases todo with _ | ⟨act, rest⟩
    · exact ⟨rfl, rfl⟩
    · cases act with
      | publish con => dsimp only; split_ifs <;> exact ⟨rfl, rfl⟩
      | location m => exact ⟨rfl, rfl⟩
      | output high => exact ⟨rfl, rfl⟩

/-- What was written stays written. -/
theorem sent_grows_step (w : Writer) (sh : Shared) : sh.sent <+: (w.step sh).2.sent := by
  obtain ⟨phase, todo⟩ := w
  cases phase with
  | checked c => exact List.prefix_append _ _
  | sent c => exact List.prefix_rfl
  | idle =>
    rcases todo with _ | ⟨act, rest⟩
    · exact List.prefix_rfl
    · cases act with
      | location m => exact List.prefix_append _ _
      | output high => exact List.prefix_rfl
      | publish c =>
        simp only [step]
        split_ifs <;> exact List.prefix_rfl

/-- The publication still writes `con`, on `s_1` or to `transferred_info`. -/
def Writes (w : Writer) (con : ParkingState) : Prop :=
  w.phase = .checked con ∨ w.phase = .sent con ∨ .publish con ∈ w.todo

/-- An access leaves nothing to write that was not there before. -/
theorem writes_of_step {w : Writer} {sh : Shared} {con : ParkingState}
    (h : (w.step sh).1.Writes con) : w.Writes con := by
  unfold step at h
  rcases w with ⟨phase, todo⟩
  cases phase with
  | checked c =>
    rcases h with h | h | h
    · simp at h
    · exact Or.inl (by simpa using h)
    · exact Or.inr (Or.inr h)
  | sent c =>
    rcases h with h | h | h
    · simp at h
    · simp at h
    · exact Or.inr (Or.inr h)
  | idle =>
    rcases todo with _ | ⟨act, rest⟩
    · exact h
    · have hrest : .publish con ∈ rest → Writes ⟨.idle, act :: rest⟩ con :=
        fun hin => Or.inr (Or.inr (List.mem_cons_of_mem _ hin))
      have hidle : Writes ⟨.idle, rest⟩ con → Writes ⟨.idle, act :: rest⟩ con := by
        rintro (h | h | h)
        · simp at h
        · simp at h
        · exact hrest h
      cases act with
      | location m => exact hidle h
      | output high => exact hidle h
      | publish c =>
        dsimp only at h
        split_ifs at h with hc
        · exact hidle h
        · rcases h with h | h | h
          · obtain rfl : c = con := by simpa using h
            exact Or.inr (Or.inr List.mem_cons_self)
          · simp at h
          · exact hrest h

/-- What a decision starts with is what it publishes. -/
theorem writes_start {acts : List Act} {con : ParkingState} :
    (start acts).Writes con ↔ .publish con ∈ acts := by
  simp [Writes, start]

end Writer

/-! ## Program counters -/

/-- Where `BeaconFinder.run` is. -/
inductive FinderPc where
  -- the test of `info` on line 119
  | outer
  -- the call of `parse_events` on line 132
  | sampling (s : Sample)
  -- in the `for` loop, with the strings of the result still to come
  | listening (s : Sample) (rest : List Beacon)
  -- the test of `info` on line 151
  | post (s : Sample)
  -- the publications of a decision
  | acting (w : Writer)
  deriving DecidableEq, Repr

/-- Where `BeaconCondition.run` is. -/
inductive ConditionPc where
  -- `stop_check = l_check` on line 71
  | start
  -- the test of `info` on line 74
  | outer
  -- after the three seconds, the comparison on line 77
  | polled
  -- the publication of `nobeacon`
  | nobeacon (w : Writer)
  -- `l_check = stop_check` on line 87
  | save
  -- the publication of `deactivate`
  | deactivate (w : Writer)
  deriving DecidableEq, Repr

/-- The state of the program: globals, the finder, the condition thread. `l_check`
is `none` for `""`. -/
structure Threads (D : Type*) where
  shared : Shared
  finder_pc : FinderPc
  finder : BeaconFinder D
  condition_pc : ConditionPc
  l_check : Option ℤ
  count : ℕ
  deriving DecidableEq, Repr

/-- Which thread moves, and with what. The list a finder step carries is used only
where `parse_events` is called. -/
inductive Label where
  | mode_check (info : ℤ)
  | beacon_finder (returnList : List Beacon)
  | beacon_condition
  deriving DecidableEq, Repr

namespace Threads

variable {D : Type*} [Field D] [LinearOrder D]

def init : Threads D := ⟨.init, .outer, .init, .start, none, 0⟩

/-- Line 61, with what `int(..)` returned. -/
def mode_check (t : Threads D) (info : ℤ) : Threads D :=
  { t with shared := { t.shared with info := some info } }

section Finder

variable [IsStrictOrderedRing D] (P : Power D)

/-- One access of `BeaconFinder.run`. -/
def beacon_finder (t : Threads D) (returnList : List Beacon) : Threads D :=
  match t.finder_pc with
  | .outer =>
    if t.shared.info = some 1 then { t with finder_pc := .sampling .init }
    else { t with finder := t.finder.deactivate }
  | .sampling s => { t with finder_pc := .listening s returnList }
  | .listening s (bea :: rest) =>
    { t with
      finder_pc := .listening (s.hear bea) rest
      shared := { t.shared with
        stop_check := if bea.Accepted then some bea.rssi else t.shared.stop_check } }
  | .listening s [] => { t with finder_pc := if s.Open then .sampling s else .post s }
  | .post s =>
    if t.shared.info = some 0 then { t with finder_pc := .outer }
    else
      { t with
        finder_pc := .acting (.start (t.finder.decision (s.measure P)).2)
        finder := (t.finder.decision (s.measure P)).1 }
  | .acting w =>
    if w.Done then { t with finder_pc := .outer }
    else { t with finder_pc := .acting (w.step t.shared).1, shared := (w.step t.shared).2 }

/-- Lines 77-80. -/
def poll (t : Threads D) : ℕ := if t.shared.stop_check = t.l_check then t.count + 1 else 0

/-- One access of `BeaconCondition.run`. -/
def beacon_condition (t : Threads D) : Threads D :=
  match t.condition_pc with
  | .start => { t with condition_pc := .outer, shared := { t.shared with stop_check := t.l_check } }
  | .outer =>
    if t.shared.info = some 1 then { t with condition_pc := .polled }
    else { t with condition_pc := .deactivate (.start [.publish .deactivate]) }
  | .polled =>
    { t with
      count := t.poll
      condition_pc := if 3 ≤ t.poll then .nobeacon (.start [.publish .nobeacon]) else .save }
  | .nobeacon w =>
    if w.Done then { t with condition_pc := .save }
    else { t with condition_pc := .nobeacon (w.step t.shared).1, shared := (w.step t.shared).2 }
  | .save => { t with condition_pc := .outer, l_check := t.shared.stop_check }
  | .deactivate w =>
    if w.Done then { t with condition_pc := .outer }
    else { t with condition_pc := .deactivate (w.step t.shared).1, shared := (w.step t.shared).2 }

/-- One step of the program. -/
def step (t : Threads D) : Label → Threads D
  | .mode_check info => t.mode_check info
  | .beacon_finder returnList => t.beacon_finder P returnList
  | .beacon_condition => t.beacon_condition

end Finder

/-! ## The finder's locals as iterations -/

section Iterations

variable [IsStrictOrderedRing D] (P : Power D)

/-- The pass of `while True` that a step completes, if it does. -/
def iteration (t : Threads D) : Label → List (Iteration D)
  | .beacon_finder _ =>
    match t.finder_pc with
    | .outer => if t.shared.info = some 1 then [] else [.deactivate]
    | .post s => if t.shared.info = some 0 then [.interrupted] else [.round (s.measure P)]
    | _ => []
  | _ => []

/-- **The finder refines its iterations**: whatever the other threads do, its locals
are those of the passes it has completed. -/
def iterations : Refinement (step P) (BeaconFinder.iterate (D := D)) where
  abs := Threads.finder
  emit := iteration P
  abs_step t l := by
    cases l with
    | mode_check info => rfl
    | beacon_condition =>
      simp only [step, beacon_condition, iteration, run_nil]
      split <;> (try split_ifs) <;> rfl
    | beacon_finder returnList =>
      simp only [step, beacon_finder, iteration]
      cases t.finder_pc with
      | outer => dsimp only; split_ifs <;> rfl
      | sampling s => rfl
      | listening s rest => cases rest <;> rfl
      | post s => dsimp only; split_ifs <;> rfl
      | acting w => dsimp only; split_ifs <;> rfl

/-- **What one step does to the finder's locals**: nothing, the deactivation branch, or
a decision. -/
theorem finder_step (t : Threads D) (l : Label) :
    (t.step P l).finder = t.finder ∨ (t.step P l).finder = t.finder.deactivate ∨
      ∃ returnList s, l = .beacon_finder returnList ∧ t.finder_pc = .post s ∧
        t.shared.info ≠ some 0 ∧ (t.step P l).finder = (t.finder.decision (s.measure P)).1 := by
  have habs := (iterations P).abs_step t l
  change (t.step P l).finder = run BeaconFinder.iterate t.finder (iteration P t l) at habs
  rw [habs]
  unfold iteration
  cases l with
  | mode_check info => exact Or.inl rfl
  | beacon_condition => exact Or.inl rfl
  | beacon_finder returnList =>
    dsimp only
    split
    · split_ifs
      · exact Or.inl rfl
      · exact Or.inr (Or.inl rfl)
    · rename_i s hpc
      split_ifs with h0
      · exact Or.inl rfl
      · exact Or.inr (Or.inr ⟨returnList, s, rfl, hpc, h0, rfl⟩)
    · exact Or.inl rfl

/-- While the mode is `1` the finder keeps what it has locked. -/
theorem locked_beacon_finder {t : Threads D} {m : Major} {r : D} (hinfo : t.shared.info = some 1)
    (h : t.finder.Locked m r) (returnList : List Beacon) :
    (t.beacon_finder P returnList).finder.Locked m r := by
  unfold beacon_finder
  cases t.finder_pc with
  | outer => dsimp only; rw [if_pos hinfo]; exact h
  | sampling s => exact h
  | listening s rest => cases rest <;> exact h
  | post s =>
    dsimp only
    rw [hinfo, if_neg (by simp)]
    exact (BeaconFinder.decision_locked h _).1
  | acting w => dsimp only; split_ifs <;> exact h

/-- Something is locked, or the locals are as the start of the program and the
deactivation branch leave them. -/
theorem fresh_or_locked (labels : List Label) :
    (run (step P) (init : Threads D) labels).finder.Fresh ∨
      ∃ m r, (run (step P) (init : Threads D) labels).finder.Locked m r := by
  have hrun := (iterations P).abs_run (init : Threads D) labels
  change (run (step P) init labels).finder = _ at hrun
  rw [hrun]
  exact fresh_or_locked_run _

/-- Nothing is locked where `count_1` is zero. -/
theorem fresh_of_count_1 (labels : List Label)
    (h : (run (step P) (init : Threads D) labels).finder.count_1 = 0) :
    (run (step P) (init : Threads D) labels).finder.Fresh := by
  rcases fresh_or_locked P labels with hfresh | ⟨m, r, hl⟩
  · exact hfresh
  · exact absurd h hl.count_1

end Iterations

end Threads

/-! ## The publications as check-send-assign -/

/-- The two threads that write `parking_state` messages. -/
inductive Thread where
  | beacon_finder
  | beacon_condition
  deriving DecidableEq, Repr

/-- The thread each status belongs to. -/
def ParkingState.owner : ParkingState → Thread
  | safe => .beacon_finder
  | stolen => .beacon_finder
  | nobeacon => .beacon_condition
  | deactivate => .beacon_condition

/-- One access of a publication is one move of the protocol, or none. -/
theorem Writer.run_move (w : Writer) (sh : Shared) (i : Thread)
    (f : Thread → Phase ParkingState) (hf : f i = w.phase) :
    run CheckSend.step ⟨sh.transferred_info, Message.states sh.sent, f⟩ (w.move i)
      = ⟨(w.step sh).2.transferred_info, Message.states (w.step sh).2.sent,
          Function.update f i (w.step sh).1.phase⟩ := by
  obtain ⟨phase, todo⟩ := w
  dsimp only at hf
  cases phase with
  | checked con => simp [Writer.move, Writer.step, CheckSend.step, hf]
  | sent con => simp [Writer.move, Writer.step, CheckSend.step, hf]
  | idle =>
    have hidle : Function.update f i .idle = f := by rw [← hf, Function.update_eq_self]
    rcases todo with _ | ⟨act, rest⟩
    · simp [Writer.move, Writer.step, hidle]
    · cases act with
      | location m => simp [Writer.move, Writer.step, hidle]
      | output high => simp [Writer.move, Writer.step, hidle]
      | publish con =>
        by_cases hc : sh.transferred_info = some con
        · simp [Writer.move, Writer.step, CheckSend.step, hf, hc, hidle]
        · simp [Writer.move, Writer.step, CheckSend.step, hf, hc]

namespace Threads

variable {D : Type*} [Field D] [LinearOrder D]

/-- The publication a thread is in; an empty one where it is in none. -/
def writer (t : Threads D) : Thread → Writer
  | .beacon_finder =>
    match t.finder_pc with
    | .acting w => w
    | _ => .start []
  | .beacon_condition =>
    match t.condition_pc with
    | .nobeacon w => w
    | .deactivate w => w
    | _ => .start []

/-- What the publications see of the state. -/
def protocol (t : Threads D) : CheckSend.State Thread ParkingState where
  value := t.shared.transferred_info
  log := Message.states t.shared.sent
  phase i := (t.writer i).phase

/-- A thread's access, as moves of the protocol. -/
def moves (t : Threads D) : Label → List (Move Thread ParkingState)
  | .mode_check _ => []
  | .beacon_finder _ => (t.writer .beacon_finder).move .beacon_finder
  | .beacon_condition => (t.writer .beacon_condition).move .beacon_condition

/-- What one access of thread `i` does to the publications: outside one it may at most
start its own; inside one it is the writer's access. The other thread's publication
and `info` stay. -/
structure Effect (i : Thread) (t t' : Threads D) : Prop where
  other : ∀ j, j ≠ i → t'.writer j = t.writer j
  info : t'.shared.info = t.shared.info
  access :
    (t.writer i = .start [] ∧ t'.shared.transferred_info = t.shared.transferred_info ∧
      t'.shared.sent = t.shared.sent ∧
      ∃ acts, t'.writer i = .start acts ∧ ∀ con, .publish con ∈ acts → con.owner = i) ∨
    (t'.shared = ((t.writer i).step t.shared).2 ∧ t'.writer i = ((t.writer i).step t.shared).1)

omit [Field D] [LinearOrder D] in
/-- An effect is a move of the protocol. -/
theorem Effect.protocol_eq {i : Thread} {t t' : Threads D} (h : Effect i t t') :
    t'.protocol = run CheckSend.step t.protocol ((t.writer i).move i) := by
  rcases h.access with ⟨hw, htr, hsent, acts, hw', -⟩ | ⟨hsh, hw'⟩
  · have hphase : ∀ j, (t'.writer j).phase = (t.writer j).phase := by
      intro j
      by_cases hj : j = i
      · rw [hj, hw', hw]; rfl
      · rw [h.other j hj]
    rw [hw]
    simp only [protocol, htr, hsent, hphase, Writer.move, Writer.start, run_nil]
  · have hphase : (fun j => (t'.writer j).phase)
        = Function.update (fun j => (t.writer j).phase) i
            ((t.writer i).step t.shared).1.phase := by
      funext j
      by_cases hj : j = i
      · rw [hj, Function.update_self, hw']
      · rw [Function.update_of_ne hj, h.other j hj]
    unfold protocol
    rw [Writer.run_move (t.writer i) t.shared i _ rfl, hphase, hsh]

/-- Each thread writes only its own statuses. -/
def Owned (t : Threads D) : Prop := ∀ i con, (t.writer i).Writes con → con.owner = i

omit [Field D] [LinearOrder D] in
theorem Effect.owned {i : Thread} {t t' : Threads D} (h : Effect i t t') (ht : t.Owned) :
    t'.Owned := by
  intro j con hcon
  by_cases hj : j = i
  · subst hj
    rcases h.access with ⟨-, -, -, acts, hw', hacts⟩ | ⟨-, hw'⟩
    · rw [hw', Writer.writes_start] at hcon
      exact hacts con hcon
    · rw [hw'] at hcon
      exact ht j con (Writer.writes_of_step hcon)
  · rw [h.other j hj] at hcon
    exact ht j con hcon

omit [Field D] [LinearOrder D] in
theorem Effect.sent_grows {i : Thread} {t t' : Threads D} (h : Effect i t t') :
    t.shared.sent <+: t'.shared.sent := by
  rcases h.access with ⟨-, -, hsent, -⟩ | ⟨hsh, -⟩
  · rw [hsent]
  · rw [hsh]
    exact (t.writer i).sent_grows_step t.shared

/-- A decision publishes nothing but `safe` and `stolen`. -/
theorem owner_of_mem_decision (st : BeaconFinder D) (d : Measured D) {con : ParkingState}
    (h : .publish con ∈ (st.decision d).2) : con.owner = .beacon_finder := by
  have hacts : ∀ v : Verdict, .publish con ∈ v.acts → con.owner = .beacon_finder := by
    intro v hv
    cases v <;> simp only [Verdict.acts, List.mem_cons, List.not_mem_nil, Act.publish.injEq,
      reduceCtorEq, or_false] at hv <;> rw [hv] <;> rfl
  have hloc : ∀ (m : Major) (r : BeaconFinder D × List Act),
      .publish con ∈ (BeaconFinder.locate m r).2 → .publish con ∈ r.2 := by
    intro m r hr
    rcases (BeaconFinder.locate_cases m r).2 with he | he
    · rwa [he] at hr
    · rw [he] at hr
      simpa using hr
  simp only [BeaconFinder.decision] at h
  split_ifs at h
  · have h' := hloc _ _ h
    unfold BeaconFinder.branch_39 at h'
    dsimp only at h'
    split_ifs at h' <;> exact hacts _ h'
  · have h' := hloc _ _ h
    unfold BeaconFinder.branch_234 at h'
    dsimp only at h'
    split_ifs at h' <;> exact hacts _ h'
  · simp at h

section Publications

variable [IsStrictOrderedRing D] (P : Power D)

theorem beacon_finder_effect (t : Threads D) (returnList : List Beacon) :
    Effect .beacon_finder t (t.beacon_finder P returnList) := by
  -- a step outside the publications: at most a decision starts them
  have hquiet : ∀ t' : Threads D, t.writer .beacon_finder = .start [] →
      t'.condition_pc = t.condition_pc → t'.shared.info = t.shared.info →
      t'.shared.transferred_info = t.shared.transferred_info →
      t'.shared.sent = t.shared.sent →
      (∃ acts, t'.writer .beacon_finder = .start acts ∧
        ∀ con, .publish con ∈ acts → con.owner = .beacon_finder) →
      Effect .beacon_finder t t' := by
    intro t' hw hpc hinfo htr hsent hstart
    refine ⟨fun j hj => ?_, hinfo, Or.inl ⟨hw, htr, hsent, hstart⟩⟩
    cases j with
    | beacon_finder => exact absurd rfl hj
    | beacon_condition => simp only [writer, hpc]
  have hnone : ∃ acts, Writer.start [] = .start acts ∧
      ∀ con, .publish con ∈ acts → con.owner = .beacon_finder := ⟨[], rfl, by simp⟩
  unfold beacon_finder
  cases hpc : t.finder_pc with
  | outer =>
    have hw : t.writer .beacon_finder = .start [] := by simp only [writer, hpc]
    dsimp only
    split_ifs
    · exact hquiet _ hw rfl rfl rfl rfl hnone
    · exact hquiet _ hw rfl rfl rfl rfl (by simpa only [writer, hpc] using hnone)
  | sampling s =>
    exact hquiet _ (by simp only [writer, hpc]) rfl rfl rfl rfl hnone
  | listening s rest =>
    have hw : t.writer .beacon_finder = .start [] := by simp only [writer, hpc]
    cases rest with
    | nil =>
      dsimp only
      refine hquiet _ hw rfl rfl rfl rfl ?_
      split_ifs <;> exact hnone
    | cons bea rest => exact hquiet _ hw rfl rfl rfl rfl hnone
  | post s =>
    have hw : t.writer .beacon_finder = .start [] := by simp only [writer, hpc]
    dsimp only
    split_ifs
    · exact hquiet _ hw rfl rfl rfl rfl hnone
    · exact hquiet _ hw rfl rfl rfl rfl
        ⟨_, rfl, fun con hcon => owner_of_mem_decision t.finder _ hcon⟩
  | acting w =>
    have hw : t.writer .beacon_finder = w := by simp only [writer, hpc]
    dsimp only
    split_ifs with hdone
    · refine hquiet _ ?_ rfl rfl rfl rfl hnone
      rw [hw, Writer.start, ← hdone.1, ← hdone.2]
    · refine ⟨fun j hj => ?_, (w.step_frame t.shared).1, Or.inr ⟨by rw [hw], by rw [hw]; rfl⟩⟩
      cases j with
      | beacon_finder => exact absurd rfl hj
      | beacon_condition => rfl

omit [Field D] [LinearOrder D] [IsStrictOrderedRing D] in
theorem beacon_condition_effect (t : Threads D) :
    Effect .beacon_condition t t.beacon_condition := by
  have hquiet : ∀ t' : Threads D, t.writer .beacon_condition = .start [] →
      t'.finder_pc = t.finder_pc → t'.shared.info = t.shared.info →
      t'.shared.transferred_info = t.shared.transferred_info →
      t'.shared.sent = t.shared.sent →
      (∃ acts, t'.writer .beacon_condition = .start acts ∧
        ∀ con, .publish con ∈ acts → con.owner = .beacon_condition) →
      Effect .beacon_condition t t' := by
    intro t' hw hpc hinfo htr hsent hstart
    refine ⟨fun j hj => ?_, hinfo, Or.inl ⟨hw, htr, hsent, hstart⟩⟩
    cases j with
    | beacon_condition => exact absurd rfl hj
    | beacon_finder => simp only [writer, hpc]
  have hnone : ∃ acts, Writer.start [] = .start acts ∧
      ∀ con, .publish con ∈ acts → con.owner = .beacon_condition := ⟨[], rfl, by simp⟩
  -- the two publications, `nobeacon` and `deactivate`
  have hwriting : ∀ (w : Writer) (t' : Threads D), t.writer .beacon_condition = w →
      t'.finder_pc = t.finder_pc → t'.shared = (w.step t.shared).2 →
      t'.writer .beacon_condition = (w.step t.shared).1 → Effect .beacon_condition t t' := by
    intro w t' hw hpc hsh hw'
    refine ⟨fun j hj => ?_, by rw [hsh, (w.step_frame t.shared).1],
      Or.inr ⟨by rw [hw]; exact hsh, by rw [hw]; exact hw'⟩⟩
    cases j with
    | beacon_condition => exact absurd rfl hj
    | beacon_finder => simp only [writer, hpc]
  unfold beacon_condition
  cases hpc : t.condition_pc with
  | start => exact hquiet _ (by simp only [writer, hpc]) rfl rfl rfl rfl hnone
  | save => exact hquiet _ (by simp only [writer, hpc]) rfl rfl rfl rfl hnone
  | outer =>
    have hw : t.writer .beacon_condition = .start [] := by simp only [writer, hpc]
    dsimp only
    split_ifs
    · exact hquiet _ hw rfl rfl rfl rfl hnone
    · exact hquiet _ hw rfl rfl rfl rfl ⟨_, rfl, by simp [ParkingState.owner]⟩
  | polled =>
    have hw : t.writer .beacon_condition = .start [] := by simp only [writer, hpc]
    dsimp only
    refine hquiet _ hw rfl rfl rfl rfl ?_
    split_ifs
    · exact ⟨_, rfl, by simp [ParkingState.owner]⟩
    · exact hnone
  | nobeacon w =>
    have hw : t.writer .beacon_condition = w := by simp only [writer, hpc]
    dsimp only
    split_ifs with hdone
    · refine hquiet _ ?_ rfl rfl rfl rfl hnone
      rw [hw, Writer.start, ← hdone.1, ← hdone.2]
    · exact hwriting w _ hw rfl rfl rfl
  | deactivate w =>
    have hw : t.writer .beacon_condition = w := by simp only [writer, hpc]
    dsimp only
    split_ifs with hdone
    · refine hquiet _ ?_ rfl rfl rfl rfl hnone
      rw [hw, Writer.start, ← hdone.1, ← hdone.2]
    · exact hwriting w _ hw rfl rfl rfl

/-- What was sent stays sent. -/
theorem sent_grows (t : Threads D) (l : Label) :
    t.shared.sent <+: (t.step P l).shared.sent := by
  cases l with
  | mode_check info => exact List.prefix_rfl
  | beacon_finder returnList => exact (beacon_finder_effect P t returnList).sent_grows
  | beacon_condition => exact (beacon_condition_effect t).sent_grows

/-- What was sent stays sent, over a whole run. -/
theorem sent_grows_run (t : Threads D) (labels : List Label) :
    t.shared.sent <+: (run (step P) t labels).shared.sent := by
  have hstep : ∀ (t' : Threads D) (l : Label), t.shared.sent <+: t'.shared.sent →
      t.shared.sent <+: (t'.step P l).shared.sent :=
    fun t' l h => h.trans (sent_grows P t' l)
  exact invariant hstep List.prefix_rfl labels

/-- **The program refines the protocol**: its publications are runs of
check-send-assign sequences by two writers. -/
def publications : Refinement (step P)
    (CheckSend.step : CheckSend.State Thread ParkingState → _ → _) where
  abs := protocol
  emit := moves
  abs_step t l := by
    cases l with
    | mode_check info => rfl
    | beacon_finder returnList => exact (beacon_finder_effect P t returnList).protocol_eq
    | beacon_condition => exact (beacon_condition_effect t).protocol_eq

theorem owned_step (t : Threads D) (l : Label) (h : t.Owned) : (t.step P l).Owned := by
  cases l with
  | mode_check info => exact h
  | beacon_finder returnList => exact (beacon_finder_effect P t returnList).owned h
  | beacon_condition => exact (beacon_condition_effect t).owned h

omit [LinearOrder D] [IsStrictOrderedRing D] in
theorem owned_init : (init : Threads D).Owned := by
  intro i con hcon
  cases i <;> simp [writer, init, Writer.writes_start] at hcon

end Publications

/-! ## A first round -/

/-- Ten advertisements of `39` at one metre, one result of `parse_events`. -/
def ten_near : List Beacon := List.replicate 10 ⟨39, -59, -59⟩

/-- The mode becomes `1` and the finder samples `ten_near`; its first decision is next. -/
def heard_39 : List Label :=
  .mode_check 1 :: .beacon_finder [] :: .beacon_finder ten_near ::
    List.replicate 11 (.beacon_finder [])

end Threads

end SmartBike.Parking
