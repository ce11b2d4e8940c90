/-
`transferred_info` against what was sent: the duplicate suppression of the two
threads that write `parking_state` messages.

The seven check-send-assign sequences are moves of the library's protocol
(`Threads.publications`), so its invariant applies to every run in which no test
and no `sendall` of one thread falls between the `sendall` and the assignment of
the other. Nothing in the program sees to that, and one overlap is enough to leave
`transferred_info` at a value the server does not have.
-/
import SmartBike.Parking.Threads

set_option autoImplicit false

open Runs CheckSend

namespace SmartBike.Parking

namespace Threads

variable {D : Type*}

/-- Neither thread is between its test and its assignment. -/
def Quiescent (t : Threads D) : Prop := ∀ i, (t.writer i).phase = .idle

/-- The `con` of the last `parking_state` message sent on `s_1`. -/
def last_state (t : Threads D) : Option ParkingState := (Message.states t.shared.sent).getLast?

/-- The next access of thread `i` is a test or a `sendall` of a status. -/
def TestsOrSends (t : Threads D) (i : Thread) : Prop :=
  (t.writer i).testing ≠ none ∨ (t.writer i).sending ≠ none

/-- No thread but `i` is between its `sendall` and its assignment. -/
def OthersAssigned (t : Threads D) (i : Thread) : Prop :=
  ∀ j, j ≠ i → ¬ (t.writer j).phase.IsSent

/-- A thread takes a test or a `sendall` only while the other is not between its
`sendall` and its assignment. -/
def Exclusive (t : Threads D) : Label → Prop
  | .mode_check _ => True
  | .beacon_finder _ => t.TestsOrSends .beacon_finder → t.OthersAssigned .beacon_finder
  | .beacon_condition => t.TestsOrSends .beacon_condition → t.OthersAssigned .beacon_condition

instance : Fintype Thread := ⟨{.beacon_finder, .beacon_condition}, by rintro (_ | _) <;> simp⟩

instance (t : Threads D) : Decidable t.Quiescent := inferInstanceAs (Decidable (∀ _, _))

instance (t : Threads D) (i : Thread) : Decidable (t.TestsOrSends i) :=
  inferInstanceAs (Decidable (_ ∨ _))

instance (t : Threads D) (i : Thread) : Decidable (t.OthersAssigned i) :=
  inferInstanceAs (Decidable (∀ _, _))

instance (t : Threads D) (l : Label) : Decidable (t.Exclusive l) :=
  match l with
  | .mode_check _ => isTrue trivial
  | .beacon_finder _ => inferInstanceAs (Decidable (_ → _))
  | .beacon_condition => inferInstanceAs (Decidable (_ → _))

/-- An exclusive access of an owned writer is an orderly move of the protocol. -/
theorem orderly_move {t : Threads D} (h : t.Owned) {i : Thread}
    (hex : t.TestsOrSends i → t.OthersAssigned i) :
    Steps CheckSend.step (Orderly ParkingState.owner) t.protocol ((t.writer i).move i) := by
  have hown := h i
  unfold TestsOrSends at hex
  cases hphase : (t.writer i).phase with
  | sent con =>
    simp only [Writer.move, hphase]
    exact ⟨trivial, trivial⟩
  | checked con =>
    simp only [Writer.move, hphase]
    exact ⟨hex (Or.inr (by simp [Writer.sending, hphase])), trivial⟩
  | idle =>
    cases htodo : (t.writer i).todo with
    | nil =>
      simp only [Writer.move, hphase, htodo]
      trivial
    | cons act rest =>
      cases act with
      | location m => simp only [Writer.move, hphase, htodo]; trivial
      | output high => simp only [Writer.move, hphase, htodo]; trivial
      | publish con =>
        simp only [Writer.move, hphase, htodo]
        refine ⟨⟨hown con (Or.inr (Or.inr (by rw [htodo]; exact List.mem_cons_self))), ?_⟩, trivial⟩
        exact hex (Or.inl (by simp [Writer.testing, hphase, htodo]))

variable [Field D] [LinearOrder D]

omit [LinearOrder D] in
theorem inv_init : Inv ParkingState.owner (init : Threads D).protocol :=
  inv_of_idle (fun i => by cases i <;> rfl) rfl List.IsChain.nil

variable [IsStrictOrderedRing D] (P : Power D)

/-- **What an exclusive run preserves.** -/
theorem inv_run {labels : List Label} (h : Steps (step P) Exclusive (init : Threads D) labels) :
    Inv ParkingState.owner (run (step P) (init : Threads D) labels).protocol := by
  have howned : Steps (step P) (fun t l => t.Owned ∧ t.Exclusive l) (init : Threads D) labels :=
    h.with_invariant (fun t l ht _ => owned_step P t l ht) owned_init
  have habs := (publications P).abs_run (init : Threads D) labels
  change (run (step P) init labels).protocol = _ at habs
  rw [habs]
  refine run_inv inv_init ((publications P).steps_trace ?_ howned)
  rintro t l ⟨ht, hex⟩
  cases l with
  | mode_check info => exact trivial
  | beacon_finder returnList => exact orderly_move ht hex
  | beacon_condition => exact orderly_move ht hex

/-- **Duplicate suppression.** In every run in which no test and no `sendall` of one
thread falls between the other's `sendall` and assignment: whenever neither thread is
between its test and its assignment, `transferred_info` is the last status sent; no
status is sent twice in a row; and a test suppresses a status only if it is the last
one sent. -/
theorem transferred_info_truthful (labels : List Label)
    (h : Steps (step P) Exclusive (init : Threads D) labels) :
    ((run (step P) (init : Threads D) labels).Quiescent →
      (run (step P) (init : Threads D) labels).shared.transferred_info
        = (run (step P) (init : Threads D) labels).last_state) ∧
    (Message.states (run (step P) (init : Threads D) labels).shared.sent).IsChain (· ≠ ·) ∧
    (∀ i con, ((run (step P) (init : Threads D) labels).writer i).testing = some con →
      (run (step P) (init : Threads D) labels).OthersAssigned i →
      ((run (step P) (init : Threads D) labels).shared.transferred_info = some con ↔
        (run (step P) (init : Threads D) labels).last_state = some con)) := by
  have hinv := inv_run P h
  refine ⟨fun hq => ?_, hinv.no_repetition, fun i con htest hothers => ?_⟩
  · refine hinv.value_last fun i => ?_
    change ¬ ((run (step P) init labels).writer i).phase.IsSent
    rw [hq i]
    simp
  · refine hinv.test_exact (i := i) ?_ hothers con
    change ((run (step P) init labels).writer i).phase = .idle
    unfold Writer.testing at htest
    split at htest
    · assumption
    · simp at htest

/-! ## One overlap -/

/-- A session's first round, up to the test for `safe`: the finder locks on `39`. -/
def first_round : List Label := heard_39 ++ [.beacon_finder []]

/-- `BeaconCondition` publishes `deactivate` before the mode becomes `1`, then the
finder publishes `safe`, without overlap. -/
theorem transferred_info_truthful_in_turn :
    Steps (step Power.floor) Exclusive init
      (List.replicate 6 .beacon_condition ++ first_round ++ List.replicate 3 (.beacon_finder [])) ∧
    (run (step Power.floor) init (List.replicate 6 .beacon_condition ++ first_round ++
      List.replicate 3 (.beacon_finder []))).shared.transferred_info = some .safe ∧
    (run (step Power.floor) init (List.replicate 6 .beacon_condition ++ first_round ++
      List.replicate 3 (.beacon_finder []))).last_state = some .safe := by
  have hex : Steps (step Power.floor) Exclusive init (List.replicate 6 .beacon_condition ++
      first_round ++ List.replicate 3 (.beacon_finder [])) := by
    decide +kernel
  have hq : (run (step Power.floor) init (List.replicate 6 .beacon_condition ++
      first_round ++ List.replicate 3 (.beacon_finder []))).Quiescent := by
    decide +kernel
  have hsafe : (run (step Power.floor) init (List.replicate 6 .beacon_condition ++ first_round ++
      List.replicate 3 (.beacon_finder []))).shared.transferred_info = some .safe := by
    decide +kernel
  exact ⟨hex, hsafe, ((transferred_info_truthful Power.floor _ hex).1 hq).symm.trans hsafe⟩

/-- `BeaconCondition` has tested for `deactivate` when the mode becomes `1`; the
finder's `safe` then falls between the `sendall` of `deactivate` and its assignment. -/
def overlap : List Label :=
  List.replicate 3 .beacon_condition ++ first_round ++
    [.beacon_finder [], .beacon_condition, .beacon_finder [], .beacon_finder [], .beacon_condition]

/-- After the overlap both threads are done, the server has `safe`, and
`transferred_info` says `deactivate`. -/
theorem transferred_info_stale_after_overlap :
    ¬ ((run (step Power.floor) init overlap).Quiescent →
      (run (step Power.floor) init overlap).shared.transferred_info
        = (run (step Power.floor) init overlap).last_state) := by
  decide +kernel

end Threads

end SmartBike.Parking
