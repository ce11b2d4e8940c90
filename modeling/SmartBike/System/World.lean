/-
The whole system: the app, the program on the Pi, and what is on its way between them.

The parts are those of `FirstActivity.lean` and `Threads.lean`, and they are coupled by
two containers. A post of the app creates a `parking_mode` instance, of which the
gateway notifies `ModeCheck`; a `parking_state` message of the Pi creates an instance
of that container, of which the app's pollers fetch the latest. Notifications and
messages may be delayed independently. A run of the system, read by one of its parts,
is a run of that part (`app_runs`, `pi_runs`).

What the messages and notifications are as text is the gateway's business; the last
section says that those of this file are texts it carries (`deliverable_parts`,
`mode_check_whole`).
-/
import SmartBike.Gateway.Publish
import SmartBike.Parking.ModeCheck

set_option autoImplicit false

open Runs Delivery

namespace SmartBike.System

open App Parking

/-- The `con` of a `parking_state` message. -/
def state_con : ParkingState → String
  | .safe => "safe"
  | .stolen => "stolen"
  | .nobeacon => "nobeacon"
  | .deactivate => "deactivate"

/-- The app, the Pi, the notifications of `parking_mode` instances, and the
`parking_state` messages: pending until `ModeCheck` or the server has them. -/
structure World (D : Type*) where
  app : FirstActivity
  pi : Threads D
  modes : Net ParkingMode
  states : Net ParkingState
  deriving DecidableEq, Repr

inductive Label where
  | click
  -- the server handles the post at index `i` of those pending
  | post (i : ℕ)
  -- `ModeCheck` receives the notification at index `i` of those pending
  | mode_check (i : ℕ)
  -- `ModeCheck` receives the reply to its registration
  | reply (status : ℤ)
  | beacon_finder (returnList : List Beacon)
  | beacon_condition
  -- the server creates the instance of the message at index `i` of those pending
  | create (i : ℕ)
  -- poller `i` takes its next step; if it is a fetch, it may fail
  | poll (i : ℕ) (fails : Bool)
  deriving DecidableEq, Repr

namespace World

variable {D : Type*} [Field D] [LinearOrder D]

def init : World D := ⟨.init, .init, .empty, .empty⟩

/-- The instance `parking_state/latest` is. -/
def latest (w : World D) : Option ParkingState := w.states.arrived.getLast?

/-- What a fetch makes of the response; of an empty container there is none. -/
def answer (w : World D) (fails : Bool) : Option String :=
  if fails then none else w.latest.map state_con

section Step

variable [IsStrictOrderedRing D] (P : Power D)

/-- The `parking_state` messages a step of the Pi writes. -/
def published (w : World D) (l : Parking.Label) : List ParkingState :=
  Message.states ((w.pi.step P l).shared.sent.drop w.pi.shared.sent.length)

/-- A step of the Pi. -/
def pi_step (w : World D) (l : Parking.Label) : World D :=
  { w with
    pi := w.pi.step P l
    states := run Net.step w.states ((w.published P l).map .issue) }

/-- One step of the system. -/
def step (w : World D) : Label → World D
  | .click => { w with app := w.app.step .click }
  | .post i =>
    { w with
      app := w.app.step (.post i)
      modes := match w.app.parking_mode.pending[i]? with
        | none => w.modes
        | some req => w.modes.issue req.mode }
  | .mode_check i =>
    match w.modes.pending[i]? with
    | none => w
    | some mode => { w.pi_step P (.mode_check (mode_num mode)) with modes := w.modes.arrive i }
  | .reply status => w.pi_step P (.mode_check status)
  | .beacon_finder returnList => w.pi_step P (.beacon_finder returnList)
  | .beacon_condition => w.pi_step P .beacon_condition
  | .create i => { w with states := w.states.arrive i }
  | .poll i fails => { w with app := w.app.step (.poll i (w.answer fails)) }

/-! ## The parts -/

/-- What the app does in a step. -/
def app_labels (w : World D) : Label → List App.Label
  | .click => [.click]
  | .post i => [.post i]
  | .poll i fails => [.poll i (w.answer fails)]
  | _ => []

/-- What the Pi does in a step. -/
def pi_labels (w : World D) : Label → List Parking.Label
  | .mode_check i => (w.modes.pending[i]?).toList.map fun mode => .mode_check (mode_num mode)
  | .reply status => [.mode_check status]
  | .beacon_finder returnList => [.beacon_finder returnList]
  | .beacon_condition => [.beacon_condition]
  | _ => []

/-- **The app in the system**: it gets nothing but answers. -/
def app_runs : Refinement (step P) FirstActivity.step where
  abs := World.app
  emit := app_labels
  abs_step w l := by
    cases l with
    | mode_check i =>
      simp only [step, app_labels, run_nil]
      split <;> rfl
    | click | post | reply | beacon_finder | beacon_condition | create | poll => rfl

/-- **The Pi in the system**: it gets nothing but modes. -/
def pi_runs : Refinement (step P) (Threads.step P) where
  abs := World.pi
  emit := pi_labels
  abs_step w l := by
    cases l with
    | mode_check i =>
      simp only [step, pi_labels]
      split
      · rename_i h
        rw [h]
        rfl
      · rename_i mode h
        rw [h]
        rfl
    | click | post | reply | beacon_finder | beacon_condition | create | poll => rfl

/-- **What one step publishes** is what goes on its way to the server. -/
theorem states_step (w : World D) (l : Label) :
    (∃ l', (w.step P l).states = run Net.step w.states ((w.published P l').map .issue) ∧
      (w.step P l).pi = w.pi.step P l') ∨
    ((w.step P l).pi = w.pi ∧ ((w.step P l).states = w.states ∨
      ∃ i, l = .create i ∧ (w.step P l).states = w.states.arrive i)) := by
  cases l with
  | click => exact Or.inr ⟨rfl, Or.inl rfl⟩
  | post i => exact Or.inr ⟨rfl, Or.inl rfl⟩
  | mode_check i =>
    simp only [step]
    split
    · exact Or.inr ⟨rfl, Or.inl rfl⟩
    · exact Or.inl ⟨_, rfl, rfl⟩
  | reply status => exact Or.inl ⟨_, rfl, rfl⟩
  | beacon_finder returnList => exact Or.inl ⟨_, rfl, rfl⟩
  | beacon_condition => exact Or.inl ⟨_, rfl, rfl⟩
  | create i => exact Or.inr ⟨rfl, Or.inr ⟨i, rfl, rfl⟩⟩
  | poll i fails => exact Or.inr ⟨rfl, Or.inl rfl⟩

/-- What the Pi has sent stays sent. -/
theorem sent_grows (w : World D) (l : Label) :
    w.pi.shared.sent <+: (w.step P l).pi.shared.sent := by
  have habs := (pi_runs P).abs_step w l
  change (w.step P l).pi = _ at habs
  rw [habs]
  exact Threads.sent_grows_run P w.pi _

/-! ## As text -/

/-- A notification that comes in one piece is a step of `ModeCheck`. -/
theorem mode_check_whole {w : World D} {i : ℕ} {mode : ParkingMode}
    (h : w.modes.pending[i]? = some mode) :
    (w.step P (.mode_check i)).pi.shared.info
      = (ModeCheck.recv ⟨w.pi.shared.info, false⟩ (GatewayMessage.notification mode).bytes).info := by
  have hint : int (ModeCheck.slice (GatewayMessage.notification mode).bytes)
      = some (mode_num mode) := by
    rw [GatewayMessage.slice_bytes, GatewayMessage.int_notification]
  rw [← ModeCheck.recv_eq_mode_check P w.pi hint]
  simp only [step, h]
  rfl

end Step

end World

/-- The container and the `con` of what `parking_thread` writes on `s_1`. -/
def message_parts : Message → Gateway.Text × Gateway.Text
  | .parking_state con => ("parking_state".toList, (state_con con).toList)
  | .parking_location .m39 => ("parking_location".toList, "39".toList)
  | .parking_location .m234 => ("parking_location".toList, "234".toList)

/-- The gateway takes every message of `parking_thread` as it is. -/
theorem deliverable_parts (m : Message) : Gateway.Deliverable (message_parts m) := by
  rcases m with con | major
  · cases con <;> decide +kernel
  · cases major <;> decide +kernel

end SmartBike.System
