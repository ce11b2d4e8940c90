/-
`FirstActivity.java`: the parking-mode toggle, the threads its clicks start, and the
server's container `parking_mode`.

A click starts a `ControlRequest`, which posts one instance, and a click that turns
the toggle on also starts a `RetrieveRequestCon`, which polls `parking_state` until it
breaks or an exception ends it. The threads share the toggle and `check_state` with
the main thread. A step of the system is one click, one post handled by the server,
or one of the four steps of a poll by one poller; the label carries what a fetch
returns.
-/
import Mathlib.Data.List.Range
import SmartBike.Lib.Delivery

set_option autoImplicit false

open Runs Delivery

namespace SmartBike.App

/-- The `con` of a `parking_mode` instance. -/
inductive ParkingMode where
  | driving
  | parking
  deriving DecidableEq, Repr

def ParkingMode.con : ParkingMode → String
  | driving => "0"
  | parking => "1"

/-- A `ControlRequest`: what it posts, and which click has started it. -/
structure ControlRequest where
  click : ℕ
  mode : ParkingMode
  deriving DecidableEq, Repr

/-! ## Pollers -/

/-- Where `RetrieveRequestCon.run` is. -/
inductive PollerPc where
  -- the request and what is done to its response, lines 159-184
  | fetch
  -- the test of `mode.isChecked()`, line 186
  | test (con : String)
  -- lines 187-200
  | react (con : String)
  -- line 206
  | sleep
  -- past the `break` of line 204
  | stopped
  -- past the `catch`
  | failed
  -- past the `break` of line 191
  | reported
  deriving DecidableEq, Repr

namespace PollerPc

/-- The thread is alive. -/
def alive : PollerPc → Bool
  | fetch | test _ | react _ | sleep => true
  | stopped | failed | reported => false

/-- Where the next step leads. `answer` is what a fetch makes of the response, `none`
when it ends in an exception. -/
def next (pc : PollerPc) (isChecked : Bool) (answer : Option String) : PollerPc :=
  match pc with
  | fetch =>
    match answer with
    | some con => test con
    | none => failed
  | test con => if isChecked then react con else stopped
  | react con => if con = "stolen" then reported else sleep
  | sleep => fetch
  | stopped => stopped
  | failed => failed
  | reported => reported

end PollerPc

/-- A poller and the session it was started for: the sessions are the clicks that turn
the toggle on, counted from one. -/
structure RetrieveRequestCon where
  session : ℕ
  pc : PollerPc
  deriving DecidableEq, Repr

def RetrieveRequestCon.alive (p : RetrieveRequestCon) : Bool := p.pc.alive

/-- A call of `NotificationSomethings`, and the armed session it falls in, if it falls
in one. -/
structure Notification where
  message : String
  session : Option ℕ
  deriving DecidableEq, Repr

/-! ## The activity -/

/-- The toggle, the number of clicks and of clicks that turned it on, the
`ControlRequest`s with the instances they have created, the pollers in the order of
their start, and what these have done. -/
structure FirstActivity where
  isChecked : Bool
  clicks : ℕ
  turned_on : ℕ
  parking_mode : Net ControlRequest
  pollers : List RetrieveRequestCon
  check_state : String
  notifications : List Notification
  deriving DecidableEq, Repr

inductive Label where
  | click
  -- the server handles the post at index `i` of those pending
  | post (i : ℕ)
  -- poller `i` takes its next step
  | poll (i : ℕ) (answer : Option String)
  deriving DecidableEq, Repr

namespace FirstActivity

def init : FirstActivity := ⟨false, 0, 0, .empty, [], "", []⟩

/-- Lines 85-98. The toggle has changed before the listener is called. -/
def onClick (s : FirstActivity) : FirstActivity :=
  if s.isChecked then
    { s with
      isChecked := false
      clicks := s.clicks + 1
      parking_mode := s.parking_mode.issue ⟨s.clicks, .driving⟩ }
  else
    { s with
      isChecked := true
      clicks := s.clicks + 1
      turned_on := s.turned_on + 1
      parking_mode := s.parking_mode.issue ⟨s.clicks, .parking⟩
      pollers := s.pollers ++ [⟨s.turned_on + 1, .fetch⟩] }

theorem onClick_of_on {s : FirstActivity} (h : s.isChecked = true) :
    s.onClick = { s with
      isChecked := false
      clicks := s.clicks + 1
      parking_mode := s.parking_mode.issue ⟨s.clicks, .driving⟩ } := by
  rw [onClick, if_pos h]

theorem onClick_of_off {s : FirstActivity} (h : s.isChecked = false) :
    s.onClick = { s with
      isChecked := true
      clicks := s.clicks + 1
      turned_on := s.turned_on + 1
      parking_mode := s.parking_mode.issue ⟨s.clicks, .parking⟩
      pollers := s.pollers ++ [⟨s.turned_on + 1, .fetch⟩] } := by
  rw [onClick, if_neg (by simp [h])]

/-- The armed session the app is in. -/
def session (s : FirstActivity) : Option ℕ := if s.isChecked then some s.turned_on else none

theorem session_eq_some {s : FirstActivity} {k : ℕ} (h : s.session = some k) :
    s.isChecked = true ∧ k = s.turned_on := by
  unfold session at h
  split_ifs at h with hon
  exact ⟨hon, (Option.some.inj h).symm⟩

/-- Lines 187-200. `!=` compares references, of literals only. -/
def react (s : FirstActivity) (con : String) : FirstActivity :=
  if con = "stolen" then
    { s with
      notifications := s.notifications ++ [⟨con, s.session⟩]
      check_state := "stolen" }
  else if con = "safe" ∧ s.check_state ≠ "safe" then { s with check_state := "safe" }
  else if con = "nobeacon" ∧ s.check_state ≠ "nobeacon" then { s with check_state := "nobeacon" }
  else s

/-- One step of poller `i`. -/
def poll (s : FirstActivity) (i : ℕ) (answer : Option String) : FirstActivity :=
  match s.pollers[i]? with
  | none => s
  | some p =>
    let s' := match p.pc with
      | .react con => s.react con
      | _ => s
    { s' with pollers := s.pollers.set i { p with pc := p.pc.next s.isChecked answer } }

def step (s : FirstActivity) : Label → FirstActivity
  | .click => s.onClick
  | .post i => { s with parking_mode := s.parking_mode.arrive i }
  | .poll i answer => s.poll i answer

/-! ## What the steps leave alone -/

theorem react_frame (s : FirstActivity) (con : String) :
    (s.react con).isChecked = s.isChecked ∧ (s.react con).clicks = s.clicks ∧
      (s.react con).turned_on = s.turned_on ∧ (s.react con).parking_mode = s.parking_mode := by
  unfold react
  split_ifs <;> exact ⟨rfl, rfl, rfl, rfl⟩

theorem poll_frame (s : FirstActivity) (i : ℕ) (answer : Option String) :
    (s.poll i answer).isChecked = s.isChecked ∧ (s.poll i answer).clicks = s.clicks ∧
      (s.poll i answer).turned_on = s.turned_on ∧
      (s.poll i answer).parking_mode = s.parking_mode := by
  unfold poll
  split
  · exact ⟨rfl, rfl, rfl, rfl⟩
  · rename_i p _
    dsimp only
    split
    · exact s.react_frame _
    · exact ⟨rfl, rfl, rfl, rfl⟩

end FirstActivity

end SmartBike.App
