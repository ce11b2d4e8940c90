/-
The set-up of the gateway: the timer of `app.js`, lines 197-319, and the callbacks of the
requests it makes.

Once a second the timer makes the requests of the phase `sh_state` names, and makes them
again as long as the phase has not changed. The two counters are global and count the
answers to container and subscription requests whenever they come, those to an earlier
tick's requests included, and an answer to a request for the AE takes the state to
`crtct` from wherever it is. So a callback here may come at any time.

`tas_ready.emit('connect')` opens the server the scripts write to. A second one on the same
port is an error nobody handles, which ends the process; hence a gateway completes its
set-up once (`setup_once`).
-/
import SmartBike.Gateway.Tas

set_option autoImplicit false

open Runs

namespace SmartBike.Gateway

/-! ## The configuration -/

/-- An entry of `cnt` in `conf.json`. -/
structure Container where
  parentpath : Text
  ctname : Text
  deriving DecidableEq, Repr

/-- An entry of `sub`. -/
structure Subscription where
  parentpath : Text
  subname : Option Text
  nu : Option Text
  deriving DecidableEq, Repr

/-- What is read of `url.parse`. There is no `pathname` of `mqtt://host`. -/
structure Url where
  protocol : Text
  hostname : Text
  pathname : Option Text
  deriving DecidableEq, Repr

/-- The `pathname` in a text. -/
def Url.path (u : Url) : Text := u.pathname.getD "null".toList

inductive BodyType where
  | xml
  | json
  deriving DecidableEq, Repr

/-- What `thyme.js` reads from `conf.json`, `ip.address()`, and `url.parse`. -/
structure Conf where
  usecbhost : Text
  usecbname : Text
  useaeid : Text
  useappname : Text
  useappid : Text
  useappport : Text
  usebodytype : BodyType
  usectname : List Container
  usesubname : List Subscription
  address : Text
  parse : Text → Url

/-- What a request of `adn.js` asks for. Its headers are left out: no answer is told apart
by them. -/
inductive AdnRequest where
  | crtae (parent_path appname appid : Text)
  | rtvae (path : Text)
  | crtct (parent_path ctname : Text)
  | delsub (path : Text)
  | crtsub (parent_path subname : Text) (nu : Option Text)
  deriving DecidableEq, Repr

namespace Conf

/-- The loop of line 51 goes over the entries with a name. -/
def named (subs : List Subscription) : List Subscription := subs.filter fun s => s.subname.isSome

def protocol (c : Conf) (s : Subscription) : Option Text := s.nu.map fun nu => (c.parse nu).protocol

def HTTP_SUBSCRIPTION_ENABLE (c : Conf) : Bool :=
  (named c.usesubname).any fun s => c.protocol s = some "http:".toList

def MQTT_SUBSCRIPTION_ENABLE (c : Conf) : Bool :=
  (named c.usesubname).any fun s => c.protocol s = some "mqtt:".toList

/-- Otherwise the process exits, line 64, or `url.parse` throws. -/
def Supported (c : Conf) : Prop :=
  ∀ s ∈ named c.usesubname,
    c.protocol s = some "http:".toList ∨ c.protocol s = some "mqtt:".toList

instance (c : Conf) : Decidable c.Supported := List.decidableBAll _ _

/-- Lines 55-57. -/
def autoset (c : Conf) (s : Subscription) : Subscription :=
  match s.subname, s.nu with
  | some _, some nu =>
    if (c.parse nu).protocol = "http:".toList ∧ (c.parse nu).hostname = "autoset".toList then
      { s with
        nu := some ("http://".toList ++ c.address ++ ':' :: (c.useappport ++ (c.parse nu).path)) }
    else s
  | _, _ => s

def crtae (c : Conf) : AdnRequest := .crtae ('/' :: c.usecbname) c.useappname c.useappid

def rtvae (c : Conf) : AdnRequest := .rtvae ('/' :: (c.usecbname ++ '/' :: c.useappname))

def crtct (c : Conf) (ct : Container) : AdnRequest :=
  .crtct ('/' :: (c.usecbname ++ ct.parentpath)) ct.ctname

def delsub (c : Conf) (s : Subscription) : Option AdnRequest :=
  s.subname.map fun subname =>
    .delsub ('/' :: (c.usecbname ++ s.parentpath ++ '/' :: subname))

def crtsub (c : Conf) (s : Subscription) : Option AdnRequest :=
  s.subname.map fun subname => .crtsub ('/' :: (c.usecbname ++ s.parentpath)) subname s.nu

end Conf

/-- `conf.json`, with what `url.parse` makes of the one address in it. -/
def conf_json : Conf where
  usecbhost := "203.253.128.151".toList
  usecbname := "mobius-yt".toList
  useaeid := "dongguk-capstone".toList
  useappname := "dongguk-capstone".toList
  useappid := "0.2.481.1.1".toList
  useappport := "11001".toList
  usebodytype := .xml
  usectname := ["parking_mode", "beacon_number", "parking_location", "parking_state", "left_light",
    "right_light"].map fun ctname => ⟨"/dongguk-capstone".toList, ctname.toList⟩
  usesubname := [⟨"/dongguk-capstone/parking_mode".toList, some "sub-ctrl".toList,
    some "mqtt://203.253.128.151/dongguk-capstone".toList⟩]
  address := "192.168.0.2".toList
  parse nu :=
    if nu = "mqtt://203.253.128.151/dongguk-capstone".toList then
      ⟨"mqtt:".toList, "203.253.128.151".toList, some "/dongguk-capstone".toList⟩
    else ⟨[], [], none⟩

/-! ## The timer and the callbacks -/

/-- What `ae_response_action` finds in a body: no XML or JSON, no AE, or the identifier of
one. -/
inductive AeBody where
  | error
  | other
  | ae (aei : Text)
  deriving DecidableEq, Repr

/-- The variables of the set-up, the topics of the MQTT clients, whether the scripts'
server has been opened, and whether the process has ended. -/
structure Setup where
  sh_state : ShState
  request_count : ℕ
  return_count : ℕ
  useaeid : Text
  usesubname : List Subscription
  noti_topic : Text
  mqtt_clients : List Text
  listening : Bool
  crashed : Bool
  deriving DecidableEq, Repr

inductive SetupEvent where
  -- the timer; `generated` is what `shortid` generates
  | interval (generated : Text)
  -- the callback of a request; `rsc` is the number its header `x-m2m-rsc` is
  | callback (r : AdnRequest) (rsc : Option ℕ) (res_body : AeBody)
  -- the callback of `crtci`, line 359
  | respond (rsc : Option ℕ)
  deriving DecidableEq, Repr

/-- A status that counts as an answer to a request that creates. -/
def Created (rsc : Option ℕ) : Prop := rsc = some 5106 ∨ rsc = some 2001 ∨ rsc = some 4105

instance (rsc : Option ℕ) : Decidable (Created rsc) := inferInstanceAs (Decidable (_ ∨ _ ∨ _))

/-- A status that counts as an answer to `delsub`. -/
def Deleted (rsc : Option ℕ) : Prop :=
  rsc = some 5106 ∨ rsc = some 2002 ∨ rsc = some 2000 ∨ rsc = some 4105 ∨ rsc = some 4004

instance (rsc : Option ℕ) : Decidable (Deleted rsc) :=
  inferInstanceAs (Decidable (_ ∨ _ ∨ _ ∨ _ ∨ _))

namespace Setup

variable (c : Conf)

def init : Setup where
  sh_state := .crtae
  request_count := 0
  return_count := 0
  useaeid := c.useaeid
  usesubname := c.usesubname.map c.autoset
  noti_topic := []
  mqtt_clients := []
  listening := false
  crashed := !decide c.Supported

/-- The topic of all requests to the AE. -/
def req_topic (useaeid : Text) : Text := "/oneM2M/req/+/".toList ++ useaeid ++ "/#".toList

/-- One round of the loop of line 82. -/
def topic (s : Setup) (sub : Subscription) : Subscription × Text :=
  match sub.subname, sub.nu with
  | some _, some nu =>
    if (c.parse nu).hostname = "autoset".toList then
      ({ sub with nu := some ("mqtt://".toList ++ c.usecbhost ++ '/' :: s.useaeid) },
        req_topic s.useaeid)
    else if (c.parse nu).hostname = c.usecbhost then (sub, req_topic s.useaeid)
    else (sub, (c.parse nu).path)
  | _, _ => (sub, s.noti_topic)

/-- The loop of line 82: the topic of the last subscription is kept. -/
def topics (s : Setup) : List Subscription → Setup
  | [] => { s with usesubname := [] }
  | sub :: subs =>
    let (sub', noti_topic) := topic c s sub
    let s' := topics { s with noti_topic := noti_topic } subs
    { s' with usesubname := sub' :: s'.usesubname }

def ready_for_notification (s : Setup) : Setup :=
  if c.HTTP_SUBSCRIPTION_ENABLE then s
  else if c.MQTT_SUBSCRIPTION_ENABLE then
    let s' := topics c s s.usesubname
    { s' with mqtt_clients := s'.mqtt_clients ++ [s'.noti_topic] }
  else s

/-- Lines 291-300 and 308-313. -/
def connect (s : Setup) : Setup :=
  let s' := { ready_for_notification c s with sh_state := .crtci }
  -- the port of a second server is in use
  if s'.listening then { s' with crashed := true } else { s' with listening := true }

/-- `ae_response_action`, and the state after it. -/
def ae_response_action (s : Setup) : AeBody → Setup
  | .error =>
    match c.usebodytype with
    | .xml => { s with sh_state := .crtct }
    | .json => { s with crashed := true }
  | .other => { s with crashed := true }
  | .ae aei => { s with useaeid := aei, sh_state := .crtct }

/-- The requests of one tick. -/
def requests (s : Setup) : List AdnRequest :=
  match s.sh_state with
  | .crtae => [c.crtae]
  | .rtvae => [c.rtvae]
  | .crtct => c.usectname.map c.crtct
  | .delsub => s.usesubname.filterMap c.delsub
  | .crtsub => s.usesubname.filterMap c.crtsub
  | .crtci => []

/-- The timer, but for the requests themselves. -/
def interval (s : Setup) (generated : Text) : Setup :=
  match s.sh_state with
  | .crtae => s
  | .rtvae => if s.useaeid = ['S'] then { s with useaeid := 'S' :: generated } else s
  | .crtct =>
    let s' := { s with request_count := (requests c s).length, return_count := 0 }
    if requests c s = [] then { s' with sh_state := .delsub } else s'
  | .delsub =>
    let s' := { s with request_count := (requests c s).length, return_count := 0 }
    if requests c s = [] then { s' with sh_state := .crtsub } else s'
  | .crtsub =>
    let s' := { s with request_count := (requests c s).length, return_count := 0 }
    if requests c s = [] then connect c s' else s'
  | .crtci => s

/-- An answer that counts: `next` once as many have come as there were requests. -/
def counted (s : Setup) (next : Setup → Setup) : Setup :=
  let s' := { s with return_count := s.return_count + 1 }
  if s'.return_count = s'.request_count then next s' else s'

def callback (s : Setup) (r : AdnRequest) (rsc : Option ℕ) (res_body : AeBody) : Setup :=
  match r with
  | .crtae _ _ _ =>
    if rsc = some 5106 ∨ rsc = some 2001 then ae_response_action c s res_body
    else if rsc = some 4105 then { s with sh_state := .rtvae }
    else s
  | .rtvae _ => if rsc = some 2000 then ae_response_action c s res_body else s
  | .crtct _ _ => if Created rsc then s.counted fun s => { s with sh_state := .delsub } else s
  | .delsub _ => if Deleted rsc then s.counted fun s => { s with sh_state := .crtsub } else s
  | .crtsub _ _ _ => if Created rsc then s.counted (connect c) else s

def respond (s : Setup) (rsc : Option ℕ) : Setup :=
  if rsc = some 5000 then { s with sh_state := .crtae } else s

def step (s : Setup) (e : SetupEvent) : Setup :=
  if s.crashed then s
  else
    match e with
    | .interval generated => interval c s generated
    | .callback r rsc res_body => callback c s r rsc res_body
    | .respond rsc => s.respond rsc

theorem step_alive {s : Setup} (hs : s.crashed = false) (e : SetupEvent) :
    s.step c e = match e with
      | .interval generated => interval c s generated
      | .callback r rsc res_body => callback c s r rsc res_body
      | .respond rsc => s.respond rsc := by
  unfold step
  rw [if_neg (by rw [hs]; exact Bool.false_ne_true)]

theorem step_crashed {s : Setup} (hs : s.crashed = true) (e : SetupEvent) : s.step c e = s :=
  if_pos hs

/-! ## What the steps leave alone -/

/-- The variables that getting ready for notifications has nothing to do with. -/
structure Ready (s s' : Setup) : Prop where
  sh_state : s'.sh_state = s.sh_state
  request_count : s'.request_count = s.request_count
  return_count : s'.return_count = s.return_count
  useaeid : s'.useaeid = s.useaeid
  listening : s'.listening = s.listening
  crashed : s'.crashed = s.crashed

theorem ready_topics (s : Setup) (subs : List Subscription) : Ready s (topics c s subs) := by
  induction subs generalizing s with
  | nil => exact ⟨rfl, rfl, rfl, rfl, rfl, rfl⟩
  | cons sub subs ih =>
    obtain ⟨h1, h2, h3, h4, h5, h6⟩ := ih { s with noti_topic := (topic c s sub).2 }
    exact ⟨h1, h2, h3, h4, h5, h6⟩

theorem ready_for_notification_frame (s : Setup) : Ready s (ready_for_notification c s) := by
  unfold ready_for_notification
  split_ifs
  · exact ⟨rfl, rfl, rfl, rfl, rfl, rfl⟩
  · obtain ⟨h1, h2, h3, h4, h5, h6⟩ := ready_topics c s s.usesubname
    exact ⟨h1, h2, h3, h4, h5, h6⟩
  · exact ⟨rfl, rfl, rfl, rfl, rfl, rfl⟩

/-- **What a completed set-up does**: the scripts' server is opened, or it is the second
one. -/
theorem connect_frame (s : Setup) :
    (connect c s).sh_state = .crtci ∧ (connect c s).listening = true ∧
      (connect c s).request_count = s.request_count ∧
      (connect c s).return_count = s.return_count ∧
      (connect c s).crashed = (s.crashed || s.listening) := by
  have h := ready_for_notification_frame c s
  unfold connect
  dsimp only
  split_ifs with hlistening
  · rw [h.listening] at hlistening
    exact ⟨rfl, hlistening ▸ h.listening, h.request_count, h.return_count, by simp [hlistening]⟩
  · rw [h.listening, Bool.not_eq_true] at hlistening
    exact ⟨rfl, rfl, h.request_count, h.return_count, by simp [hlistening, h.crashed]⟩

/-! ## Serving -/

/-- The set-up is complete and the process alive: what scripts write becomes requests. -/
def Serves (s : Setup) : Prop := s.sh_state = .crtci ∧ s.crashed = false

/-- What takes a gateway out of `crtci`: an answer to a request for the AE, that comes
after all, and the status 5000 for a content instance. -/
def Leaves (_ : Setup) : SetupEvent → Prop
  | .callback (.crtae _ _ _) rsc _ => rsc = some 5106 ∨ rsc = some 2001 ∨ rsc = some 4105
  | .callback (.rtvae _) rsc _ => rsc = some 2000
  | .respond rsc => rsc = some 5000
  | _ => False

/-- The scripts' server has been opened in every state that serves, and then the counter
is past the number of requests. -/
structure Inv (s : Setup) : Prop where
  listening : s.Serves → s.listening = true
  counted : s.Serves → s.request_count ≤ s.return_count

theorem Inv.of_not_serves {s : Setup} (h : ¬ s.Serves) : s.Inv :=
  ⟨fun hs => absurd hs h, fun hs => absurd hs h⟩

theorem Inv.connect {s : Setup} (h : s.request_count ≤ s.return_count) :
    (Setup.connect c s).Inv := by
  obtain ⟨-, hlistening, hrequest, hreturn, -⟩ := connect_frame c s
  exact ⟨fun _ => hlistening, fun _ => by rw [hrequest, hreturn]; exact h⟩

theorem not_serves_connect {s : Setup} (h : s.listening = true) : ¬ (connect c s).Serves := by
  intro hs
  have hcrashed := (connect_frame c s).2.2.2.2
  rw [hs.2, h, Bool.or_true] at hcrashed
  exact absurd hcrashed Bool.false_ne_true

theorem not_serves_ae_response_action (s : Setup) (res_body : AeBody) :
    ¬ (ae_response_action c s res_body).Serves := by
  rintro ⟨hstate, hcrashed⟩
  cases res_body with
  | error =>
    unfold ae_response_action at hstate hcrashed
    cases hbody : c.usebodytype with
    | xml => simp [hbody] at hstate
    | json => simp [hbody] at hcrashed
  | other => simp [ae_response_action] at hcrashed
  | ae aei => simp [ae_response_action] at hstate

/-- A state other than `crtci` does not serve. -/
theorem not_serves_of_ne {s : Setup} (h : s.sh_state ≠ .crtci) : ¬ s.Serves := fun hs => h hs.1

/-- The phase can still end: the gateway is not in the last one, or the answers counted are
not yet as many as the requests. -/
def Unfinished (s : Setup) : Prop := s.sh_state ≠ .crtci ∨ s.return_count < s.request_count

/-- What an event makes of the set-up: nothing, a count, a state that does not serve, or the
completed set-up. -/
inductive Outcome (s : Setup) (e : SetupEvent) : Setup → Prop where
  | same (h : ¬ s.Leaves e) : Outcome s e s
  | count (h : ¬ s.Leaves e) : Outcome s e { s with return_count := s.return_count + 1 }
  | away {s' : Setup} (hs' : ¬ s'.Serves) (h : s.Leaves e ∨ s.Unfinished) : Outcome s e s'
  | complete {s₁ : Setup} (hlistening : s₁.listening = s.listening)
      (hcount : s₁.return_count = s₁.request_count) (h : s.Unfinished) :
      Outcome s e (connect c s₁)

theorem outcome_interval (s : Setup) (generated : Text) :
    Outcome c s (.interval generated) (interval c s generated) := by
  have hstay : ¬ s.Leaves (.interval generated) := id
  unfold interval
  cases hstate : s.sh_state with
  | crtae => exact .same hstay
  | rtvae =>
    have hne : s.sh_state ≠ .crtci := by simp [hstate]
    dsimp only
    split_ifs
    · exact .away (not_serves_of_ne (by simp)) (Or.inr (Or.inl hne))
    · exact .same hstay
  | crtct =>
    have hne : s.sh_state ≠ .crtci := by simp [hstate]
    dsimp only
    split_ifs
    · exact .away (not_serves_of_ne (by simp)) (Or.inr (Or.inl hne))
    · exact .away (not_serves_of_ne (by simp)) (Or.inr (Or.inl hne))
  | delsub =>
    have hne : s.sh_state ≠ .crtci := by simp [hstate]
    dsimp only
    split_ifs
    · exact .away (not_serves_of_ne (by simp)) (Or.inr (Or.inl hne))
    · exact .away (not_serves_of_ne (by simp)) (Or.inr (Or.inl hne))
  | crtsub =>
    have hne : s.sh_state ≠ .crtci := by simp [hstate]
    dsimp only
    split_ifs with hnone
    · exact .complete rfl (by simp [hnone]) (Or.inl hne)
    · exact .away (not_serves_of_ne (by simp)) (Or.inr (Or.inl hne))
  | crtci => exact .same hstay

theorem outcome_ae_response_action {s : Setup} {e : SetupEvent} (h : s.Leaves e)
    (res_body : AeBody) : Outcome c s e (ae_response_action c s res_body) :=
  .away (not_serves_ae_response_action c s res_body) (Or.inl h)

/-- An answer that counts is the last one of its phase, or not. -/
theorem outcome_counted {s : Setup} {e : SetupEvent} (h : ¬ s.Leaves e) {next : Setup → Setup}
    (hnext : s.return_count + 1 = s.request_count →
      Outcome c s e (next { s with return_count := s.return_count + 1 })) :
    Outcome c s e (s.counted next) := by
  unfold counted
  dsimp only
  split_ifs with hlast
  · exact hnext hlast
  · exact .count h

theorem unfinished_of_last {s : Setup} (h : s.return_count + 1 = s.request_count) :
    s.Unfinished := Or.inr (by omega)

theorem outcome_callback (s : Setup) (r : AdnRequest) (rsc : Option ℕ) (res_body : AeBody) :
    Outcome c s (.callback r rsc res_body) (callback c s r rsc res_body) := by
  unfold callback
  cases r with
  | crtae parent_path appname appid =>
    dsimp only
    split_ifs with hok hconflict
    · have hleaves : s.Leaves (.callback (.crtae parent_path appname appid) rsc res_body) :=
        hok.elim Or.inl fun h => Or.inr (Or.inl h)
      exact outcome_ae_response_action c hleaves res_body
    · exact .away (not_serves_of_ne (by simp)) (Or.inl (Or.inr (Or.inr hconflict)))
    · refine .same ?_
      rintro (h | h | h)
      · exact hok (Or.inl h)
      · exact hok (Or.inr h)
      · exact hconflict h
  | rtvae path =>
    dsimp only
    split_ifs with hok
    · have hleaves : s.Leaves (.callback (.rtvae path) rsc res_body) := hok
      exact outcome_ae_response_action c hleaves res_body
    · exact .same hok
  | crtct parent_path ctname =>
    dsimp only
    split_ifs
    · refine outcome_counted c id fun hlast => .away ?_ (Or.inr (unfinished_of_last hlast))
      exact not_serves_of_ne (by simp)
    · exact .same id
  | delsub path =>
    dsimp only
    split_ifs
    · refine outcome_counted c id fun hlast => .away ?_ (Or.inr (unfinished_of_last hlast))
      exact not_serves_of_ne (by simp)
    · exact .same id
  | crtsub parent_path subname nu =>
    dsimp only
    split_ifs
    · exact outcome_counted c id fun hlast => .complete rfl hlast (unfinished_of_last hlast)
    · exact .same id

theorem outcome_respond (s : Setup) (rsc : Option ℕ) :
    Outcome c s (.respond rsc) (s.respond rsc) := by
  unfold respond
  split_ifs with h
  · exact .away (not_serves_of_ne (by simp)) (Or.inl h)
  · exact .same h

/-- **What one event does**, as long as the process is alive. -/
theorem outcome_step {s : Setup} (hs : s.crashed = false) (e : SetupEvent) :
    Outcome c s e (s.step c e) := by
  rw [step_alive c hs]
  cases e with
  | interval generated => exact outcome_interval c s generated
  | callback r rsc res_body => exact outcome_callback c s r rsc res_body
  | respond rsc => exact outcome_respond c s rsc

theorem inv_step (s : Setup) (e : SetupEvent) (hi : s.Inv) : (s.step c e).Inv := by
  by_cases hs : s.crashed = true
  · rw [step_crashed c hs]
    exact hi
  · have houtcome := outcome_step c (by simpa using hs) e
    generalize s.step c e = s' at houtcome ⊢
    cases houtcome with
    | same => exact hi
    | count => exact ⟨hi.listening, fun hs => Nat.le_succ_of_le (hi.counted hs)⟩
    | away hs' => exact .of_not_serves hs'
    | complete hlistening hcount => exact .connect c (le_of_eq hcount.symm)

theorem Inv.finished {s : Setup} (hi : s.Inv) (hs : s.Serves) : ¬ s.Unfinished := by
  rintro (hne | hlt)
  · exact hne hs.1
  · have := hi.counted hs
    omega

/-- **What one event does to a gateway that serves.** -/
theorem serves_step {s : Setup} (e : SetupEvent) (hi : s.Inv) (hs : s.Serves) :
    (s.step c e).Serves ↔ ¬ s.Leaves e := by
  have houtcome := outcome_step c hs.2 e
  generalize s.step c e = s' at houtcome ⊢
  cases houtcome with
  | same h => exact iff_of_true hs h
  | count h => exact iff_of_true hs h
  | away hs' h => exact iff_of_false hs' (not_not.mpr (h.resolve_right (hi.finished hs)))
  | complete _ _ h => exact absurd h (hi.finished hs)

/-- A gateway that does not serve and has opened the scripts' server does not serve again. -/
theorem not_serves_step {s : Setup} (e : SetupEvent) (hlistening : s.listening = true)
    (hs : ¬ s.Serves) : ¬ (s.step c e).Serves := by
  by_cases hcrashed : s.crashed = true
  · rw [step_crashed c hcrashed]
    exact hs
  · have houtcome := outcome_step c (by simpa using hcrashed) e
    generalize s.step c e = s' at houtcome ⊢
    cases houtcome with
    | same => exact hs
    | count => exact hs
    | away hs' => exact hs'
    | complete hl => exact not_serves_connect c (hl.trans hlistening)

/-! ## The scripts' server -/

theorem listening_ae_response_action (s : Setup) (res_body : AeBody) :
    (ae_response_action c s res_body).listening = s.listening := by
  cases res_body with
  | error =>
    unfold ae_response_action
    cases c.usebodytype with
    | xml => rfl
    | json => rfl
  | other => rfl
  | ae aei => rfl

/-- A step opens the scripts' server only by completing the set-up, and nothing closes it. -/
theorem opens_step (s : Setup) (e : SetupEvent) :
    (s.step c e).listening = s.listening ∨
      (s.step c e).listening = true ∧ (s.step c e).sh_state = .crtci := by
  have hconnect : ∀ s' : Setup, (connect c s').listening = true ∧ (connect c s').sh_state = .crtci :=
    fun s' => ⟨(connect_frame c s').2.1, (connect_frame c s').1⟩
  by_cases hs : s.crashed = true
  · rw [step_crashed c hs]
    exact Or.inl rfl
  rw [Bool.not_eq_true] at hs
  rw [step_alive c hs]
  cases e with
  | interval generated =>
    cases hstate : s.sh_state with
    | crtae | crtci =>
      left
      simp only [interval, hstate]
    | rtvae | crtct | delsub =>
      simp only [interval, hstate]
      split_ifs
      · exact Or.inl rfl
      · exact Or.inl rfl
    | crtsub =>
      simp only [interval, hstate]
      split_ifs
      · exact Or.inr (hconnect _)
      · exact Or.inl rfl
  | callback r rsc res_body =>
    cases r with
    | crtae parent_path appname appid =>
      dsimp only [callback]
      split_ifs
      · exact Or.inl (listening_ae_response_action c s res_body)
      · exact Or.inl rfl
      · exact Or.inl rfl
    | rtvae path =>
      dsimp only [callback]
      split_ifs
      · exact Or.inl (listening_ae_response_action c s res_body)
      · exact Or.inl rfl
    | crtct parent_path ctname =>
      dsimp only [callback, counted]
      split_ifs
      · exact Or.inl rfl
      · exact Or.inl rfl
      · exact Or.inl rfl
    | delsub path =>
      dsimp only [callback, counted]
      split_ifs
      · exact Or.inl rfl
      · exact Or.inl rfl
      · exact Or.inl rfl
    | crtsub parent_path subname nu =>
      dsimp only [callback, counted]
      split_ifs
      · exact Or.inr (hconnect _)
      · exact Or.inl rfl
      · exact Or.inl rfl
  | respond rsc =>
    dsimp only [respond]
    split_ifs
    · exact Or.inl rfl
    · exact Or.inl rfl

theorem listening_step {s : Setup} (e : SetupEvent) (h : s.listening = true) :
    (s.step c e).listening = true := by
  rcases opens_step c s e with hsame | ⟨hopen, -⟩
  · exact hsame.trans h
  · exact hopen

/-- The set-up has failed for good, or has been completed and left: the gateway does not
serve again. -/
def Lost (s : Setup) : Prop := s.crashed = true ∨ s.listening = true ∧ ¬ s.Serves

theorem Lost.not_serves {s : Setup} (h : s.Lost) : ¬ s.Serves := by
  rcases h with hcrashed | ⟨-, hs⟩
  · intro hs
    rw [hs.2] at hcrashed
    exact absurd hcrashed Bool.false_ne_true
  · exact hs

theorem lost_step {s : Setup} (h : s.Lost) (e : SetupEvent) : (s.step c e).Lost := by
  rcases h with hcrashed | ⟨hlistening, hs⟩
  · left
    rw [step_crashed c hcrashed]
    exact hcrashed
  · exact Or.inr ⟨listening_step c e hlistening, not_serves_step c e hlistening hs⟩

/-- A gateway that is not lost serves as soon as the scripts' server is open. -/
theorem serves_of_not_lost {s : Setup} (h : ¬ s.Lost) (hlistening : s.listening = true) :
    s.Serves := by
  by_contra hs
  exact h (Or.inr ⟨hlistening, hs⟩)

/-! ## Once -/

/-- **Set up once.** Whatever the server answers, and when, the gateway serves exactly from
the event that first completes its set-up to the first that takes it out of `crtci`: a
status 5000, or a late answer to a request for the AE. After that it never serves again. -/
theorem setup_once (es : List SetupEvent) :
    (run (step c) (init c) es).Serves ↔
      ∃ pre e post, es = pre ++ e :: post ∧
        ((run (step c) (init c) pre).listening = false ∧ ¬ (run (step c) (init c) pre).Serves) ∧
        (run (step c) (init c) (pre ++ [e])).Serves ∧
        Steps (step c) (fun s e => ¬ s.Leaves e) (run (step c) (init c) (pre ++ [e])) post := by
  have hfresh : ∀ s : Setup, s.listening = false ∧ ¬ s.Serves → ¬ s.Serves := fun s h => h.2
  have hon : ∀ s e, Inv s → Serves s → ((step c s e).Serves ↔ ¬ s.Leaves e) :=
    fun s e hi hs => serves_step c e hi hs
  have hover : ∀ s e, Inv s → ¬ (s.listening = false ∧ ¬ s.Serves) → ¬ Serves s →
      ¬ (step c s e).Serves := by
    intro s e hi hopen hs
    apply not_serves_step c e _ hs
    by_contra hlistening
    exact hopen ⟨by simpa using hlistening, hs⟩
  have hinit : (init c).listening = false ∧ ¬ (init c).Serves :=
    ⟨rfl, not_serves_of_ne (by simp [init])⟩
  exact on_iff_entered (inv_step c) hfresh hon hover (.of_not_serves hinit.2) hinit es

end Setup

end SmartBike.Gateway
