/-
The gateway over MQTT: `mqtt_app.js`, which `thyme.js` takes for `app.js` if `useprotocol` is
`mqtt`, and the requests of `mqtt_adn.js`.

A request is published with an identifier, and its response comes as a message of its own, after
any others. Three globals say what it is a response to: `resp_mqtt_ri_arr`, the identifiers that
wait, `callback_q` and `resp_mqtt_path_arr`. They are a table of the requests that wait exactly as
long as no request gets an identifier that waits already (`tabled_iff`). Then no request is
answered twice, or with the callback or the path of another one, and one that has not been
answered still waits (`answered_once`); and the replies to the scripts are those that `app.js`
would write (`replies_iff`).

The buffers of the scripts' sockets are those of `Tas.lean`; here a line comes as a whole. A
response is one on a topic of the AE, with a text for its `rqi`; a callback that throws ends the
process.
-/
import SmartBike.Gateway.Notify
import SmartBike.Lib.Pending
import SmartBike.Lib.Simulation

set_option autoImplicit false

open Runs Pending

namespace SmartBike.Gateway

/-! ## Requests -/

/-- A request of `mqtt_adn.js`: one of those that `adn.js` has too, or `crtci`. -/
inductive MqttRequest where
  | adn (r : AdnRequest)
  -- `socket` is in the scope of the callback, which does not use it
  | crtci (socket : ℕ) (parent_path : Text) (content : Option Text)
  deriving DecidableEq, Repr

/-- What goes to `resp_mqtt_path_arr`. -/
def MqttRequest.path : MqttRequest → Text
  | .adn (.crtae parent_path _ _) => parent_path
  | .adn (.rtvae path) => path
  | .adn (.crtct parent_path _) => parent_path
  | .adn (.delsub path) => path
  | .adn (.crtsub parent_path _ _) => parent_path
  | .crtci _ parent_path _ => parent_path

/-- `pc` of a response. -/
structure Pc where
  -- `'' + pc`
  text : Text
  -- the identifier `ae_response_action` finds, `none` where it throws
  aei : Option Text
  deriving DecidableEq, Repr

/-- The text of a status. -/
def rsc_text (rsc : Option ℕ) : Text := shown (rsc.map fun n => (Nat.repr n).toList)

/-- The globals that `mqtt_adn.js` writes to, and what it has published. -/
structure MqttAdn where
  callback_q : Text → Option MqttRequest
  resp_mqtt_ri_arr : List Text
  resp_mqtt_path_arr : Text → Option Text
  published : List (Text × MqttRequest)

namespace MqttAdn

def init : MqttAdn := ⟨fun _ => none, [], fun _ => none, []⟩

/-- A response with this identifier is waited for. -/
def Waits (q : MqttAdn) (rqi : Text) : Prop := rqi ∈ q.resp_mqtt_ri_arr

instance (q : MqttAdn) (rqi : Text) : Decidable (q.Waits rqi) :=
  decidable_of_iff (q.resp_mqtt_ri_arr.contains rqi = true) List.contains_iff_mem

/-- What all functions of `mqtt_adn.js` do, with the identifier and what is asked for. -/
def send (q : MqttAdn) (p : Text × MqttRequest) : MqttAdn where
  callback_q := Function.update q.callback_q p.1 (some p.2)
  resp_mqtt_ri_arr := q.resp_mqtt_ri_arr ++ [p.1]
  resp_mqtt_path_arr := Function.update q.resp_mqtt_path_arr p.1 (some p.2.path)
  published := q.published ++ [p]

def sends (q : MqttAdn) (ps : List (Text × MqttRequest)) : MqttAdn := ps.foldl send q

/-- The two `delete`s and the `splice` behind a callback. -/
def delete (q : MqttAdn) (rqi : Text) : MqttAdn where
  callback_q := Function.update q.callback_q rqi none
  resp_mqtt_ri_arr := q.resp_mqtt_ri_arr.erase rqi
  resp_mqtt_path_arr := Function.update q.resp_mqtt_path_arr rqi none
  published := q.published

end MqttAdn

/-- The variables of `mqtt_app.js`, those globals, and what has been written on sockets.
`sh_state` is `none` for `connect`. -/
structure MqttApp where
  sh_state : Option ShState
  request_count : ℕ
  return_count : ℕ
  useaeid : Text
  usesubname : List Subscription
  socket_arr : Text → Option ℕ
  listening : Bool
  crashed : Bool
  adn : MqttAdn
  written : List (ℕ × Text)

inductive MqttAppEvent where
  -- a client is connected, or connected again
  | connect
  -- the timer; `generated` is what `shortid` generates for its requests
  | interval (generated : ℕ → Text)
  -- a line of a script, and what `shortid` generates if it becomes a request
  | line (socket : ℕ) (ctname : Text) (content : Option Text) (line rqi : Text)
  -- a response; `rsc` is the number its status is
  | response (rqi : Text) (rsc : Option ℕ) (pc : Pc)

namespace MqttApp

variable (c : Conf)

def init : MqttApp where
  sh_state := none
  request_count := 0
  return_count := 0
  useaeid := c.useaeid
  usesubname := c.usesubname
  socket_arr := fun _ => none
  listening := false
  crashed := false
  adn := .init
  written := []

def enter (m : MqttApp) (sh_state : ShState) : MqttApp := { m with sh_state := some sh_state }

def sends (m : MqttApp) (ps : List (Text × MqttRequest)) : MqttApp := { m with adn := m.adn.sends ps }

/-! ## The timer -/

/-- `autoset` in the loop of `crtsub`. -/
def autoset (m : MqttApp) (s : Subscription) : Subscription :=
  match s.subname, s.nu with
  | some _, some nu =>
    if (c.parse nu).protocol = "mqtt:".toList ∧ (c.parse nu).hostname = "autoset".toList then
      { s with nu := some ("mqtt://".toList ++ c.usecbhost ++ '/' :: m.useaeid) }
    else s
  | _, _ => s

/-- A subscription with a name and no address, of which `url.parse` throws. -/
def Unaddressed (s : Subscription) : Prop := s.subname ≠ none ∧ s.nu = none

instance : DecidablePred Unaddressed := fun _ => inferInstanceAs (Decidable (_ ∧ _))

/-- The subscriptions that the loop of `crtsub` comes to. -/
def reached (subs : List Subscription) : List Subscription :=
  subs.takeWhile fun s => ¬ Unaddressed s

/-- The requests of one tick. -/
def requests (m : MqttApp) : List AdnRequest :=
  match m.sh_state with
  | none => []
  | some .crtae => [c.crtae]
  | some .rtvae => [c.rtvae]
  | some .crtct => c.usectname.map c.crtct
  | some .delsub => m.usesubname.filterMap c.delsub
  | some .crtsub => (reached m.usesubname).filterMap fun s => c.crtsub (autoset c m s)
  | some .crtci => []

/-- The same with their identifiers. -/
def tick (m : MqttApp) (generated : ℕ → Text) : List (Text × MqttRequest) :=
  (requests c m).mapIdx fun i r => (generated i, .adn r)

/-- The completed set-up. The port of a second server is in use. -/
def listen (m : MqttApp) : MqttApp :=
  let m := m.enter .crtci
  if m.listening then { m with crashed := true } else { m with listening := true }

/-- A phase with requests that are counted begins; `next` where there are none. -/
def counting (m : MqttApp) (ps : List (Text × MqttRequest)) (next : MqttApp → MqttApp) : MqttApp :=
  let m := { m with request_count := ps.length, return_count := 0 }.sends ps
  if ps = [] then next m else m

def interval (m : MqttApp) (generated : ℕ → Text) : MqttApp :=
  match m.sh_state with
  | none => m
  | some .crtae => m.sends (tick c m generated)
  | some .rtvae => m.sends (tick c m generated)
  | some .crtct => m.counting (tick c m generated) fun m => m.enter .delsub
  | some .delsub => m.counting (tick c m generated) fun m => m.enter .crtsub
  | some .crtsub =>
    let m' := { m with
      usesubname := (reached m.usesubname).map (autoset c m) ++
        m.usesubname.drop (reached m.usesubname).length }
    if ∃ s ∈ m.usesubname, Unaddressed s then { m'.sends (tick c m generated) with crashed := true }
    else m'.counting (tick c m generated) listen
  | some .crtci => m

/-! ## The scripts -/

/-- A line of a script, once its object has been parsed. -/
def line (m : MqttApp) (socket : ℕ) (ctname : Text) (content : Option Text) (line rqi : Text) :
    MqttApp :=
  let m := { m with socket_arr := Function.update m.socket_arr ctname (some socket) }
  if content = some "hello".toList then { m with written := m.written ++ [(socket, line)] }
  else if m.sh_state = some .crtci then
    match c.usectname.find? fun ct => ct.ctname = ctname with
    | none => m
    | some ct =>
      m.sends [(rqi, .crtci socket ('/' :: (c.usecbname ++ ct.parentpath ++ '/' :: ctname)) content)]
  else m

/-! ## Responses -/

/-- `ae_response_action`, and the state after it. -/
def ae_response_action (m : MqttApp) (pc : Pc) : MqttApp :=
  match pc.aei with
  | none => { m with crashed := true }
  | some aei => { m with useaeid := aei }.enter .crtct

/-- An answer that counts: `next` once as many have come as there were requests. -/
def counted (m : MqttApp) (next : MqttApp → MqttApp) : MqttApp :=
  let m := { m with return_count := m.return_count + 1 }
  if m.return_count = m.request_count then next m else m

/-- The text that the callback of `crtci` writes. -/
def reply_text (ctname : Text) (rsc : Option ℕ) (pc : Pc) : Text :=
  Gateway.reply ctname (if rsc = some 9999 then pc.text else rsc_text rsc)

/-- What a container's script is written, if it has one. -/
def write (m : MqttApp) (ctname : Text) (rsc : Option ℕ) (pc : Pc) : MqttApp :=
  match m.socket_arr ctname with
  | none => { m with crashed := true }
  | some socket => { m with written := m.written ++ [(socket, reply_text ctname rsc pc)] }

/-- The callback of `crtci`: it takes the container from the path. -/
def reply (m : MqttApp) (parent_path : Text) (rsc : Option ℕ) (pc : Pc) : MqttApp :=
  (if rsc = some 5000 then m.enter .crtae else m).write (shown (parent_path.splitOn '/')[3]?) rsc pc

/-- The callback of a request, with what `resp_mqtt_path_arr` has for it. -/
def callback (m : MqttApp) (r : MqttRequest) (path : Option Text) (rsc : Option ℕ) (pc : Pc) :
    MqttApp :=
  match r with
  | .adn (.crtae _ _ _) =>
    if rsc = some 5106 ∨ rsc = some 2001 then m.ae_response_action pc
    else if rsc = some 4105 then m.enter .rtvae
    else m
  | .adn (.rtvae _) =>
    if rsc = some 5106 ∨ rsc = some 2000 then m.ae_response_action pc else m
  | .adn (.crtct _ _) =>
    if Created rsc then m.counted fun m => m.enter .delsub else m
  | .adn (.delsub _) =>
    if Deleted rsc then m.counted fun m => m.enter .crtsub else m
  | .adn (.crtsub _ _ _) => if Created rsc then m.counted listen else m
  | .crtci _ _ _ =>
    match path with
    | none => { m with crashed := true }
    | some parent_path => m.reply parent_path rsc pc

/-- What `mqtt_message_handler` does with a response. -/
def response (m : MqttApp) (rqi : Text) (rsc : Option ℕ) (pc : Pc) : MqttApp :=
  if m.adn.Waits rqi then
    match m.adn.callback_q rqi with
    | none => { m with crashed := true }
    | some r =>
      let m' := m.callback r (m.adn.resp_mqtt_path_arr rqi) rsc pc
      if m'.crashed then m' else { m' with adn := m'.adn.delete rqi }
  else m

/-! ## Steps -/

def step (m : MqttApp) (e : MqttAppEvent) : MqttApp :=
  if m.crashed then m
  else
    match e with
    | .connect => m.enter .crtae
    | .interval generated => m.interval c generated
    -- before the scripts' server is open, nobody writes
    | .line socket ctname content line rqi =>
      if m.listening then m.line c socket ctname content line rqi else m
    | .response rqi rsc pc => m.response rqi rsc pc

theorem step_alive {m : MqttApp} (hm : m.crashed = false) (e : MqttAppEvent) :
    m.step c e = match e with
      | .connect => m.enter .crtae
      | .interval generated => m.interval c generated
      | .line socket ctname content line rqi =>
        if m.listening then m.line c socket ctname content line rqi else m
      | .response rqi rsc pc => m.response rqi rsc pc := by
  unfold step
  rw [if_neg (by rw [hm]; exact Bool.false_ne_true)]

theorem step_crashed {m : MqttApp} (hm : m.crashed = true) (e : MqttAppEvent) : m.step c e = m :=
  if_pos hm

/-! ## What the steps do to the globals -/

theorem adn_counting (m : MqttApp) (ps : List (Text × MqttRequest)) {next : MqttApp → MqttApp}
    (hnext : ∀ m, (next m).adn = m.adn) : (m.counting ps next).adn = m.adn.sends ps := by
  unfold counting
  dsimp only
  split_ifs
  · exact hnext _
  · rfl

theorem adn_listen (m : MqttApp) : m.listen.adn = m.adn := by
  unfold listen
  dsimp only
  split_ifs
  · rfl
  · rfl

theorem adn_interval (m : MqttApp) (generated : ℕ → Text) :
    (m.interval c generated).adn = m.adn.sends (tick c m generated) := by
  have hnone : requests c m = [] → tick c m generated = [] := fun h => by rw [tick, h]; rfl
  unfold interval
  cases hstate : m.sh_state with
  | none =>
    rw [hnone (by simp only [requests, hstate])]
    rfl
  | some phase =>
    cases phase with
    | crtae => rfl
    | rtvae => rfl
    | crtct => exact adn_counting m _ fun _ => rfl
    | delsub => exact adn_counting m _ fun _ => rfl
    | crtsub =>
      dsimp only
      split_ifs
      · rfl
      · exact adn_counting _ _ adn_listen
    | crtci =>
      rw [hnone (by simp only [requests, hstate])]
      rfl

/-- The request a line becomes. -/
def line_request (m : MqttApp) (socket : ℕ) (ctname : Text) (content : Option Text) (rqi : Text) :
    List (Text × MqttRequest) :=
  if content ≠ some "hello".toList ∧ m.sh_state = some .crtci then
    (c.usectname.find? fun ct => ct.ctname = ctname).toList.map fun ct =>
      (rqi, .crtci socket ('/' :: (c.usecbname ++ ct.parentpath ++ '/' :: ctname)) content)
  else []

theorem adn_line (m : MqttApp) (socket : ℕ) (ctname : Text) (content : Option Text)
    (text rqi : Text) :
    (m.line c socket ctname content text rqi).adn
      = m.adn.sends (line_request c m socket ctname content rqi) := by
  unfold line line_request
  dsimp only
  by_cases hhello : content = some "hello".toList
  · rw [if_pos hhello, if_neg fun h => h.1 hhello]
    rfl
  · rw [if_neg hhello]
    by_cases hstate : m.sh_state = some .crtci
    · rw [if_pos hstate, if_pos ⟨hhello, hstate⟩]
      cases c.usectname.find? fun ct => decide (ct.ctname = ctname) with
      | none => rfl
      | some ct => rfl
    · rw [if_neg hstate, if_neg fun h => hstate h.2]
      rfl

/-- A callback leaves the globals alone. -/
theorem adn_callback (m : MqttApp) (r : MqttRequest) (path : Option Text) (rsc : Option ℕ)
    (pc : Pc) : (m.callback r path rsc pc).adn = m.adn := by
  have hae : (m.ae_response_action pc).adn = m.adn := by
    unfold ae_response_action
    split
    · rfl
    · rfl
  have hcounted : ∀ next : MqttApp → MqttApp, (∀ m, (next m).adn = m.adn) →
      (m.counted next).adn = m.adn := by
    intro next hnext
    unfold counted
    dsimp only
    split_ifs
    · exact hnext _
    · rfl
  have hreply : ∀ parent_path, (m.reply parent_path rsc pc).adn = m.adn := by
    intro parent_path
    unfold reply write
    split_ifs
    · split
      · rfl
      · rfl
    · split
      · rfl
      · rfl
  unfold callback
  split
  · split_ifs
    · exact hae
    · rfl
    · rfl
  · split_ifs
    · exact hae
    · rfl
  · split_ifs
    · exact hcounted _ fun _ => rfl
    · rfl
  · split_ifs
    · exact hcounted _ fun _ => rfl
    · rfl
  · split_ifs
    · exact hcounted _ adn_listen
    · rfl
  · split
    · rfl
    · exact hreply _

/-- What an event makes the gateway send. -/
def requested (m : MqttApp) (e : MqttAppEvent) : List (Text × MqttRequest) :=
  if m.crashed then []
  else
    match e with
    | .interval generated => tick c m generated
    | .line socket ctname content _ rqi =>
      if m.listening then line_request c m socket ctname content rqi else []
    | .connect => []
    | .response _ _ _ => []

/-- The callback that a response is handed to. -/
structure Call where
  rqi : Text
  request : MqttRequest
  path : Option Text
  rsc : Option ℕ
  deriving DecidableEq, Repr

def calls (m : MqttApp) (e : MqttAppEvent) : List Call :=
  if m.crashed then []
  else
    match e with
    | .response rqi rsc _ =>
      if m.adn.Waits rqi then
        (m.adn.callback_q rqi).toList.map fun r => ⟨rqi, r, m.adn.resp_mqtt_path_arr rqi, rsc⟩
      else []
    | _ => []

/-- What an event does to the globals: requests are put in, the one that has been answered is taken
out, or the process ends in its callback. -/
inductive AdnMove (m : MqttApp) (e : MqttAppEvent) (m' : MqttApp) : Prop where
  | sent (hcalls : calls m e = []) (h : m'.adn = m.adn.sends (requested c m e))
  | answered (a : Call) (hcalls : calls m e = [a]) (hrequested : requested c m e = [])
      (h : m'.adn = m.adn.delete a.rqi)
  | ended (hcrashed : m'.crashed = true) (hrequested : requested c m e = []) (h : m'.adn = m.adn)

theorem adn_step (m : MqttApp) (e : MqttAppEvent) : AdnMove c m e (m.step c e) := by
  by_cases hm : m.crashed = true
  · rw [step_crashed c hm]
    exact .ended hm (if_pos hm) rfl
  have hne : ¬ (m.crashed = true) := hm
  rw [Bool.not_eq_true] at hm
  rw [step_alive c hm]
  cases e with
  | connect => exact .sent (ite_self []) (by rw [requested, if_neg hne]; rfl)
  | interval generated =>
    refine .sent (ite_self []) ?_
    rw [requested, if_neg hne]
    exact adn_interval c m generated
  | line socket ctname content text rqi =>
    refine .sent (ite_self []) ?_
    rw [requested, if_neg hne]
    dsimp only
    split_ifs
    · exact adn_line c m socket ctname content text rqi
    · rfl
  | response rqi rsc pc =>
    have hrequested : requested c m (.response rqi rsc pc) = [] := ite_self []
    dsimp only
    unfold response
    by_cases hrqi : m.adn.Waits rqi
    · rw [if_pos hrqi]
      cases hcallback : m.adn.callback_q rqi with
      | none => exact .ended rfl hrequested rfl
      | some r =>
        dsimp only
        split_ifs with hcrashed
        · exact .ended hcrashed hrequested (adn_callback m r _ rsc pc)
        · refine .answered ⟨rqi, r, m.adn.resp_mqtt_path_arr rqi, rsc⟩ ?_ hrequested ?_
          · simp only [calls, if_neg hne, if_pos hrqi, hcallback]
            rfl
          · rw [adn_callback]
    · rw [if_neg hrqi]
      refine .sent ?_ ?_
      · simp only [calls, if_neg hne, if_neg hrqi]
      · rw [hrequested]
        rfl

end MqttApp

/-! ## The table -/

namespace MqttAdn

/-- The globals are a table of the requests that wait, with the callback and the path of each. -/
structure Tabled (q : MqttAdn) : Prop where
  table : Table q.resp_mqtt_ri_arr q.callback_q
  path : ∀ rqi, q.resp_mqtt_path_arr rqi = (q.callback_q rqi).map MqttRequest.path

/-- The requests that wait. -/
def pending (q : MqttAdn) : List (Text × MqttRequest) :=
  entries q.resp_mqtt_ri_arr q.callback_q

theorem tabled_init : init.Tabled := ⟨table_empty, fun _ => rfl⟩

theorem sends_eq (q : MqttAdn) (ps : List (Text × MqttRequest)) :
    q.sends ps = ⟨Registry.fill q.callback_q ps, q.resp_mqtt_ri_arr ++ ps.map Prod.fst,
      Registry.fill q.resp_mqtt_path_arr (ps.map fun p => (p.1, p.2.path)),
      q.published ++ ps⟩ := by
  induction ps generalizing q with
  | nil => simp [sends]
  | cons p ps ih =>
    refine (ih (q.send p)).trans ?_
    simp only [send, List.append_assoc, List.singleton_append, List.map_cons]
    rfl

/-- **Requests are put in.** -/
theorem tabled_sends_iff {q : MqttAdn} (h : q.Tabled) (ps : List (Text × MqttRequest)) :
    (q.sends ps).Tabled ↔ (q.resp_mqtt_ri_arr ++ ps.map Prod.fst).Nodup := by
  have hpath : ∀ rqi, Registry.fill q.resp_mqtt_path_arr (ps.map fun p => (p.1, p.2.path)) rqi
      = (Registry.fill q.callback_q ps rqi).map MqttRequest.path :=
    fill_map MqttRequest.path h.path ps
  rw [sends_eq, ← table_fill_iff h.table]
  exact ⟨fun hput => hput.table, fun htable => ⟨htable, hpath⟩⟩

theorem pending_sends (q : MqttAdn) {ps : List (Text × MqttRequest)}
    (h : (q.resp_mqtt_ri_arr ++ ps.map Prod.fst).Nodup) :
    (q.sends ps).pending = q.pending ++ ps := by
  rw [sends_eq]
  exact entries_fill q.callback_q h

/-- **A request is taken out.** -/
theorem Tabled.delete {q : MqttAdn} (h : q.Tabled) (rqi : Text) : (q.delete rqi).Tabled := by
  refine ⟨h.table.take rqi, ?_⟩
  intro rqi'
  by_cases heq : rqi' = rqi
  · subst heq
    simp [MqttAdn.delete]
  · simp only [MqttAdn.delete, Function.update_of_ne heq]
    exact h.path rqi'

end MqttAdn

namespace MqttApp

variable (c : Conf)

/-- No request gets an identifier that waits already, or that another one gets. -/
def Fresh (m : MqttApp) (e : MqttAppEvent) : Prop :=
  (m.adn.resp_mqtt_ri_arr ++ (requested c m e).map Prod.fst).Nodup

instance (m : MqttApp) (e : MqttAppEvent) : Decidable (Fresh c m e) :=
  inferInstanceAs (Decidable (List.Nodup _))

/-- The callback of a response is that of the request with its identifier. -/
theorem mem_calls {m : MqttApp} {e : MqttAppEvent} {a : Call} (h : a ∈ calls m e) :
    m.adn.callback_q a.rqi = some a.request ∧ m.adn.resp_mqtt_path_arr a.rqi = a.path := by
  unfold calls at h
  split_ifs at h
  · exact absurd h List.not_mem_nil
  · split at h
    · split_ifs at h
      · obtain ⟨r, hr, rfl⟩ := List.mem_map.mp h
        exact ⟨Option.mem_toList.mp hr, rfl⟩
      · exact absurd h List.not_mem_nil
    · exact absurd h List.not_mem_nil

theorem tabled_step {m : MqttApp} (h : m.adn.Tabled) (e : MqttAppEvent) :
    (m.step c e).adn.Tabled ↔ Fresh c m e := by
  have hfresh : requested c m e = [] → Fresh c m e := by
    intro hnone
    rw [Fresh, hnone, List.map_nil, List.append_nil]
    exact h.table.nodup
  cases adn_step c m e with
  | sent _ hadn =>
    rw [hadn]
    exact MqttAdn.tabled_sends_iff h _
  | answered a _ hnone hadn =>
    rw [hadn]
    exact iff_of_true (h.delete a.rqi) (hfresh hnone)
  | ended _ hnone hadn =>
    rw [hadn]
    exact iff_of_true h (hfresh hnone)

/-- **A table, as long as identifiers are new.** In every state along a run the three globals are
a table of the requests that wait, exactly if no request of the run has been given an identifier
that waits. -/
theorem tabled_iff (es : List MqttAppEvent) :
    (∀ pre, pre <+: es → (run (step c) (init c) pre).adn.Tabled) ↔
      Steps (step c) (Fresh c) (init c) es := by
  have hgood : ∀ (m : MqttApp) e, m.adn.Tabled → Fresh c m e → (m.step c e).adn.Tabled :=
    fun m e h hfresh => (tabled_step c h e).mpr hfresh
  have hbad : ∀ (m : MqttApp) e, m.adn.Tabled → ¬ Fresh c m e → ¬ (m.step c e).adn.Tabled :=
    fun m e h hnot htabled => hnot ((tabled_step c h e).mp htabled)
  exact forall_prefix_iff_steps hgood (fun _ h => h) hbad MqttAdn.tabled_init es

/-! ## Once -/

theorem alive_of_step {m : MqttApp} {e : MqttAppEvent} (h : (m.step c e).crashed = false) :
    m.crashed = false := by
  by_contra hm
  rw [Bool.not_eq_false] at hm
  rw [step_crashed c hm, hm] at h
  exact absurd h (by decide)

theorem tabled_run {es : List MqttAppEvent} (h : Steps (step c) (Fresh c) (init c) es) :
    (run (step c) (init c) es).adn.Tabled :=
  (tabled_iff c es).mpr h es (List.prefix_refl es)

/-- **Answered once.** In every run in which no request is given an identifier that waits, and
that the process survives: each request that has been published has been handed to its callback
once, with its own path, or still waits, and nothing else has been handed to a callback. -/
theorem answered_once (es : List MqttAppEvent) (h : Steps (step c) (Fresh c) (init c) es)
    (halive : (run (step c) (init c) es).crashed = false) :
    (run (step c) (init c) es).adn.published.Perm
        ((emitted (step c) calls (init c) es).map (fun a => (a.rqi, a.request)) ++
          (run (step c) (init c) es).adn.pending) ∧
      ∀ a ∈ emitted (step c) calls (init c) es, a.path = some a.request.path := by
  induction es using List.reverseRecOn with
  | nil => exact ⟨List.Perm.refl _, fun a ha => absurd ha List.not_mem_nil⟩
  | append_singleton es e ih =>
    rw [steps_concat] at h
    rw [run_concat] at halive ⊢
    obtain ⟨hperm, hpath⟩ := ih h.1 (alive_of_step c halive)
    have htabled := tabled_run c h.1
    rw [emitted_concat]
    have hstep := adn_step c (run (step c) (init c) es) e
    generalize hm : run (step c) (init c) es = m at hperm hpath htabled halive h hstep ⊢
    generalize m.step c e = m' at halive hstep ⊢
    cases hstep with
    | sent hcalls hadn =>
      rw [hadn, MqttAdn.pending_sends _ h.2, hcalls, List.append_nil, MqttAdn.sends_eq,
        ← List.append_assoc]
      exact ⟨hperm.append_right _, hpath⟩
    | answered a hcalls hrequested hadn =>
      obtain ⟨hrequest, hown⟩ := mem_calls (hcalls ▸ List.mem_singleton_self a)
      have htake : m.adn.pending.Perm ((a.rqi, a.request) :: (m.adn.delete a.rqi).pending) :=
        htabled.table.perm_take hrequest
      rw [hadn, hcalls]
      constructor
      · rw [List.map_append, List.append_assoc]
        exact hperm.trans (htake.append_left _)
      · intro a' ha'
        rcases List.mem_append.mp ha' with hbefore | hlast
        · exact hpath a' hbefore
        · rw [List.mem_singleton.mp hlast, ← hown, htabled.path, hrequest]
          rfl
    | ended hcrashed _ _ => exact absurd (hcrashed.symm.trans halive) (by decide)

/-- The identifiers of a tick. -/
def ids (tick : Char) (i : ℕ) : Text := [tick, Nat.digitChar i]

/-- The set-up of `conf.json`, with the answers to the requests for containers out of order. -/
def started : List MqttAppEvent :=
  [.connect, .interval (ids 'a'), .response (ids 'a' 0) (some 2001) ⟨[], some "S1".toList⟩,
    .interval (ids 'b')] ++
  [5, 3, 1, 0, 2, 4].map (fun i => .response (ids 'b' i) (some 2001) ⟨[], none⟩) ++
  [.interval (ids 'c'), .response (ids 'c' 0) (some 2002) ⟨[], none⟩,
    .interval (ids 'd'), .response (ids 'd' 0) (some 2001) ⟨[], none⟩]

/-- Two lines of a script, of which the second one is answered. -/
def second_answered : List MqttAppEvent :=
  [.line 0 "parking_state".toList (some "safe".toList) [] (ids 'e' 0),
    .line 0 "parking_state".toList (some "stolen".toList) [] (ids 'f' 0),
    .response (ids 'f' 0) (some 2001) ⟨[], none⟩]

theorem answered_once_second :
    (run (step conf_json) (init conf_json) (started ++ second_answered)).adn.published.Perm
        ((emitted (step conf_json) calls (init conf_json) (started ++ second_answered)).map
          (fun a => (a.rqi, a.request)) ++
          (run (step conf_json) (init conf_json) (started ++ second_answered)).adn.pending) ∧
      ∀ a ∈ emitted (step conf_json) calls (init conf_json) (started ++ second_answered),
        a.path = some a.request.path :=
  answered_once conf_json (started ++ second_answered) (by decide +kernel) (by decide +kernel)

/-! ## Replies -/

theorem written_counting (m : MqttApp) (ps : List (Text × MqttRequest)) {next : MqttApp → MqttApp}
    (hnext : ∀ m, (next m).written = m.written) : (m.counting ps next).written = m.written := by
  unfold counting
  dsimp only
  split_ifs
  · exact hnext _
  · rfl

theorem written_listen (m : MqttApp) : m.listen.written = m.written := by
  unfold listen
  dsimp only
  split_ifs
  · rfl
  · rfl

theorem written_interval (m : MqttApp) (generated : ℕ → Text) :
    (m.interval c generated).written = m.written := by
  unfold interval
  split
  · rfl
  · rfl
  · rfl
  · exact written_counting m _ fun _ => rfl
  · exact written_counting m _ fun _ => rfl
  · dsimp only
    split_ifs
    · rfl
    · exact written_counting _ _ written_listen
  · rfl

/-- The callbacks of the set-up write nothing. -/
theorem written_callback (m : MqttApp) (r : AdnRequest) (path : Option Text) (rsc : Option ℕ)
    (pc : Pc) : (m.callback (.adn r) path rsc pc).written = m.written := by
  have hae : (m.ae_response_action pc).written = m.written := by
    unfold ae_response_action
    split
    · rfl
    · rfl
  have hcounted : ∀ next : MqttApp → MqttApp, (∀ m, (next m).written = m.written) →
      (m.counted next).written = m.written := by
    intro next hnext
    unfold counted
    dsimp only
    split_ifs
    · exact hnext _
    · rfl
  cases r with
  | crtae | rtvae =>
    unfold callback
    dsimp only
    split_ifs <;> first | exact hae | rfl
  | crtct | delsub =>
    unfold callback
    dsimp only
    split_ifs
    · exact hcounted _ fun _ => rfl
    · rfl
  | crtsub =>
    unfold callback
    dsimp only
    split_ifs
    · exact hcounted _ written_listen
    · rfl

/-- The container that the callback takes from a path, and the one that `app.js` takes from it. -/
def container (path : Text) : Text := shown (path.splitOn '/')[3]?

def last_container (path : Text) : Text := shown (path.splitOn '/').getLast?

/-- What `app.js` writes: a reply goes to the socket that the line has come from. -/
def own_replies (m : MqttApp) (e : MqttAppEvent) : List (ℕ × Text) :=
  if m.crashed then []
  else
    match e with
    | .line socket _ content text _ =>
      if m.listening = true ∧ content = some "hello".toList then [(socket, text)] else []
    | .response rqi rsc pc =>
      match m.adn.callback_q rqi with
      | some (.crtci socket path _) => [(socket, reply_text (last_container path) rsc pc)]
      | _ => []
    | _ => []

/-- If the event is the response to a line of a script, its socket is still the one that is
registered for the container, and the container is the one `app.js` finds. -/
def Own (m : MqttApp) (e : MqttAppEvent) : Prop :=
  ∀ rqi rsc pc socket path content, m.crashed = false → e = .response rqi rsc pc →
    m.adn.callback_q rqi = some (.crtci socket path content) →
      container path = last_container path ∧ m.socket_arr (container path) = some socket

theorem reply_text_inj {ctname ctname' : Text} {rsc : Option ℕ} {pc : Pc}
    (h : reply_text ctname rsc pc = reply_text ctname' rsc pc) : ctname = ctname' :=
  List.append_cancel_left (List.append_cancel_right (List.append_cancel_right
    (List.append_cancel_right h)))

/-- What a reply writes is what `app.js` would write exactly if it finds the same socket under
the same name. -/
theorem written_reply_iff (m : MqttApp) (socket : ℕ) (path : Text) (rsc : Option ℕ) (pc : Pc) :
    (m.reply path rsc pc).written
        = m.written ++ [(socket, reply_text (last_container path) rsc pc)] ↔
      container path = last_container path ∧ m.socket_arr (container path) = some socket := by
  have hwritten : (m.reply path rsc pc).written = m.written ++
      (m.socket_arr (container path)).toList.map fun socket =>
        (socket, reply_text (container path) rsc pc) := by
    have hsocket : (if rsc = some 5000 then m.enter .crtae else m).socket_arr
        = m.socket_arr := by
      split_ifs
      · rfl
      · rfl
    have hbefore : (if rsc = some 5000 then m.enter .crtae else m).written
        = m.written := by
      split_ifs
      · rfl
      · rfl
    unfold reply write
    rw [hsocket, ← container]
    cases m.socket_arr (container path) with
    | none => simpa using hbefore
    | some socket' => simp [hbefore]
  rw [hwritten, List.append_cancel_left_eq]
  cases m.socket_arr (container path) with
  | none => simp
  | some socket' =>
    simp only [Option.toList_some, List.map_cons, List.map_nil, List.cons.injEq, Prod.mk.injEq,
      and_true, Option.some.injEq]
    constructor
    · rintro ⟨hsocket, htext⟩
      exact ⟨reply_text_inj htext, hsocket⟩
    · rintro ⟨hname, hsocket⟩
      exact ⟨hsocket, by rw [hname]⟩

/-- What an event writes, in a state with a table. -/
theorem written_step {m : MqttApp} (h : m.adn.Tabled) (e : MqttAppEvent) :
    (m.step c e).written = m.written ++ own_replies m e ↔ Own m e := by
  by_cases hm : m.crashed = true
  · have hreplies : own_replies m e = [] := if_pos hm
    rw [step_crashed c hm, hreplies, List.append_nil]
    refine iff_of_true rfl ?_
    intro _ _ _ _ _ _ halive
    exact absurd (hm.symm.trans halive) (by decide)
  have hne : ¬ (m.crashed = true) := hm
  rw [Bool.not_eq_true] at hm
  rw [step_alive c hm]
  cases e with
  | connect =>
    have hreplies : own_replies m .connect = [] := ite_self []
    refine iff_of_true ?_ fun _ _ _ _ _ _ _ he => by simp at he
    rw [hreplies, List.append_nil]
    rfl
  | interval generated =>
    have hreplies : own_replies m (.interval generated) = [] := ite_self []
    refine iff_of_true ?_ fun _ _ _ _ _ _ _ he => by simp at he
    rw [hreplies, List.append_nil]
    exact written_interval c m generated
  | line socket ctname content text rqi =>
    have hreplies : own_replies m (.line socket ctname content text rqi)
        = if m.listening = true ∧ content = some "hello".toList then [(socket, text)] else [] :=
      if_neg hne
    refine iff_of_true ?_ fun _ _ _ _ _ _ _ he => by simp at he
    rw [hreplies]
    dsimp only
    by_cases hlistening : m.listening = true
    · rw [if_pos hlistening]
      unfold line
      dsimp only
      by_cases hhello : content = some "hello".toList
      · rw [if_pos hhello, if_pos ⟨hlistening, hhello⟩]
      · have hnot : ¬ (m.listening = true ∧ content = some "hello".toList) := fun h => hhello h.2
        rw [if_neg hhello, if_neg hnot, List.append_nil]
        split_ifs
        · split
          · rfl
          · rfl
        · rfl
    · rw [if_neg hlistening, if_neg fun hin => hlistening hin.1, List.append_nil]
  | response rqi rsc pc =>
    have hreplies : own_replies m (.response rqi rsc pc)
        = match m.adn.callback_q rqi with
          | some (.crtci socket path _) => [(socket, reply_text (last_container path) rsc pc)]
          | _ => [] := if_neg hne
    rw [hreplies]
    dsimp only
    -- nothing is done and nothing is to be done for an identifier that does not wait
    cases hcallback : m.adn.callback_q rqi with
    | none =>
      have hrqi : ¬ m.adn.Waits rqi := by
        rw [MqttAdn.Waits, h.table.mem_iff, hcallback]
        exact Bool.false_ne_true
      rw [response, if_neg hrqi, List.append_nil]
      refine iff_of_true rfl ?_
      rintro rqi' _ _ _ _ _ - he hcrtci
      obtain ⟨rfl, -, -⟩ := MqttAppEvent.response.inj he
      rw [hcallback] at hcrtci
      exact absurd hcrtci (by simp)
    | some r =>
      have hrqi : m.adn.Waits rqi := by
        rw [MqttAdn.Waits, h.table.mem_iff, hcallback]
        rfl
      have hresponse : (m.response rqi rsc pc).written
          = (m.callback r (m.adn.resp_mqtt_path_arr rqi) rsc pc).written := by
        rw [response, if_pos hrqi, hcallback]
        dsimp only
        split_ifs
        · rfl
        · rfl
      rw [hresponse, h.path rqi, hcallback]
      cases r with
      | adn r =>
        rw [written_callback, List.append_nil]
        refine iff_of_true rfl ?_
        rintro rqi' _ _ _ _ _ - he hcrtci
        obtain ⟨rfl, -, -⟩ := MqttAppEvent.response.inj he
        rw [hcallback] at hcrtci
        exact absurd hcrtci (by simp)
      | crtci socket path content =>
        have hreply := written_reply_iff m socket path rsc pc
        refine hreply.trans ?_
        constructor
        · rintro hown rqi' _ _ socket' path' content' - he hcrtci
          obtain ⟨rfl, -, -⟩ := MqttAppEvent.response.inj he
          rw [hcallback] at hcrtci
          obtain ⟨rfl, rfl, -⟩ := MqttRequest.crtci.inj (Option.some.inj hcrtci)
          exact hown
        · intro hown
          exact hown rqi rsc pc socket path content hm rfl hcallback

/-- **As over HTTP.** Along a run the gateway has a table of its requests and has written to the
scripts what `app.js` would write, exactly if no request is given an identifier that waits, each
path has the container's name where `mqtt_app.js` looks for it, and no other socket is registered
for a container while a line for it waits for its response. -/
theorem replies_iff (es : List MqttAppEvent) :
    (∀ pre, pre <+: es → (run (step c) (init c) pre).adn.Tabled ∧
      (run (step c) (init c) pre).written = emitted (step c) own_replies (init c) pre) ↔
      Steps (step c) (fun m e => Fresh c m e ∧ Own m e) (init c) es := by
  have hgood : ∀ (m : MqttApp) (os : List (ℕ × Text)) e, (m.adn.Tabled ∧ m.written = os) →
      (Fresh c m e ∧ Own m e) → ((m.step c e).adn.Tabled ∧
        (m.step c e).written = run (fun os o => os ++ [o]) os (own_replies m e)) := by
    rintro m os e ⟨htabled, rfl⟩ ⟨hfresh, hown⟩
    rw [run_collect]
    exact ⟨(tabled_step c htabled e).mpr hfresh, (written_step c htabled e).mpr hown⟩
  have hbad : ∀ (m : MqttApp) (os : List (ℕ × Text)) e, (m.adn.Tabled ∧ m.written = os) →
      ¬ (Fresh c m e ∧ Own m e) → ¬ ((m.step c e).adn.Tabled ∧
        (m.step c e).written = run (fun os o => os ++ [o]) os (own_replies m e)) := by
    rintro m os e ⟨htabled, rfl⟩ hnot ⟨hafter, hwritten⟩
    rw [run_collect] at hwritten
    exact hnot ⟨(tabled_step c htabled e).mp hafter, (written_step c htabled e).mp hwritten⟩
  have hexact := simulated_iff hgood hbad (s := init c) (a := []) ⟨MqttAdn.tabled_init, rfl⟩ es
  simpa only [run_collect, List.nil_append] using hexact

end MqttApp

end SmartBike.Gateway
