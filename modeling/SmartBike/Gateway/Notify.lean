/-
Notifications: the listener of `message` in `app.js`, lines 428-500, and
`mqtt_noti_action` and `send_tas` of `noti.js`.

What a message is, is found out by asking a parsed value for its properties, whatever it is;
where JavaScript throws, the process ends. `xml2js` and `JSON.parse` of whole messages are
parameters. The part of a gateway that the scripts use is that of `Tas.lean`: as long as
messages are of the form the server sends, a run of the whole is a run of that part, in which
a message is a notification for each subscription it names, and is answered as often
(`tas_run`).
-/
import SmartBike.Gateway.Setup
import SmartBike.Lib.JsValue

set_option autoImplicit false

open Runs Js

namespace SmartBike.Gateway

variable {N : Type}

/-- What the callback of `mqtt_noti_action` gets. `path_arr` is undefined if there is no
`sur`. -/
structure Noti (N : Type) where
  path_arr : Option (List Text)
  cinObj : Value N
  rqi : Value N

/-- A message that `response_mqtt` publishes; its status is 2001. -/
structure Response (N : Type) where
  rsp_topic : Text
  fr : Text
  rqi : Value N
  bodytype : Option Text

/-- The gateway of the scripts, and what has been published. -/
structure Mqtt (N : Type) where
  tas : Tas
  published : List (Response N)

/-- What is known of messages: how their bodies are parsed, and what is asked of numbers. -/
structure Bodies (N : Type) where
  num : Numbers N
  -- `none` where `xml2js` reports an error
  xml : Text → Option (Value N)
  -- `none` where `JSON.parse` throws
  json : Text → Option (Value N)

section

variable (num : Numbers N)

/-- The property of two names that is tested first for the longer one. -/
def either (v : Value N) (long short : String) : Option (Value N) := do
  let p ← prop v long
  if truthy num p then return p
  prop v short

/-- The `cinObj` of a notification. -/
def cin_of (sgnObj : Value N) : Option (Value N) := do
  let nev ← prop sgnObj "nev"
  if truthy num nev then
    let rep ← prop nev "rep"
    if truthy num rep then
      let cin ← either num rep "m2m:cin" "cin"
      return if truthy num cin then cin else some (.object [])
    else return some (.object [])
  else return some (.object [])

/-- `mqtt_noti_action`: `none` where it throws, `some none` where it does not call back. -/
def mqtt_noti_action (jsonObj : Value N) : Option (Option (Noti N)) :=
  if isNull jsonObj then some none
  else do
    let rqp ← prop jsonObj "m2m:rqp"
    let rqi ← prop rqp "rqi"
    let pc ← prop rqp "pc"
    let sgnObj ← either num (if isNull pc then some (.string "") else pc) "m2m:sgn" "sgn"
    if truthy num sgnObj then
      let sur ← prop sgnObj "sur"
      let path_arr ← if truthy num sur then (split '/' sur).map some else some none
      let cinObj ← cin_of num sgnObj
      return some ⟨path_arr, cinObj, if isNull rqi then some (.string "") else rqi⟩
    else return none

/-- The element before the last one. -/
def beforeLast (path_arr : List Text) : Option Text :=
  if path_arr.length < 2 then none else path_arr[path_arr.length - 2]?

/-- What an `undefined` is in a text. -/
def shown (t : Option Text) : Text := t.getD "undefined".toList

/-- The content of an instance, in either of its forms. -/
def con_of (cinObj : Value N) : Option (Value N) := do
  let con ← prop cinObj "con"
  if isNull con then prop cinObj "content" else return con

/-- What `send_tas` writes. -/
def cin_text (ctname : Option Text) (con : Value N) : Text :=
  stringify num (.object (defined [("ctname", ctname.map fun c => .string (String.ofList c)),
    ("con", con)]))

/-- `send_tas`; `none` where it throws. -/
def send_tas (g : Tas) (path_arr : List Text) (cinObj : Value N) : Option Tas := do
  let con ← con_of cinObj
  let empty ← looseEmpty num con
  if empty then return g
  else match g.socket_arr (shown (beforeLast path_arr)) with
    | none => return g
    | some socket =>
      return { g with written := g.written ++ [(socket, cin_text num (beforeLast path_arr) con)] }

end

namespace Js2xmlparser

mutual

/-- `js2xmlparser` asks every object it goes through for its `hasOwnProperty`, and throws where this
is a property that the object has been given. The names of XML have no `@`, `#` or `=`, which it
reads in ways of its own. -/
def writable : Json N → Bool
  | .array items => writableItems items
  | .object fields => writableFields fields
  | _ => true

def writableItems : List (Json N) → Bool
  | [] => true
  | item :: items => writable item && writableItems items

def writableFields : List (String × Json N) → Bool
  | [] => true
  | (name, value) :: fields => name ≠ "hasOwnProperty" && writable value && writableFields fields

end

end Js2xmlparser

namespace Mqtt

def crash (m : Mqtt N) : Mqtt N := { m with tas := { m.tas with crashed := true } }

/-- Lines 450-451: the last two elements name the subscription. -/
def Names (path_arr : List Text) (sub : Subscription) : Prop :=
  (sub.parentpath.splitOn '/')[2]? = beforeLast path_arr ∧ sub.subname = path_arr.getLast?

instance (path_arr : List Text) : DecidablePred (Names path_arr) :=
  fun _ => inferInstanceAs (Decidable (_ ∧ _))

variable (num : Numbers N)

/-- The answer of line 453. -/
def response (useaeid : Text) (topic_arr : List Text) (rqi : Value N) : Response N where
  rsp_topic := "/oneM2M/resp/".toList ++ shown topic_arr[3]? ++ '/' :: shown topic_arr[4]? ++
    '/' :: shown topic_arr[5]?
  fr := useaeid
  rqi := rqi
  bodytype := topic_arr[5]?

/-- `response_mqtt` does not throw: what it writes as XML can be written. -/
def Answers (topic_arr : List Text) (rqi : Value N) : Prop :=
  topic_arr[5]? = some "xml".toList → rqi.all Js2xmlparser.writable = true

instance (topic_arr : List Text) (rqi : Value N) : Decidable (Answers topic_arr rqi) :=
  inferInstanceAs (Decidable (_ → _))

/-- Lines 449-463, for one subscription. -/
def inform (useaeid : Text) (topic_arr : List Text) (noti : Noti N) (m : Mqtt N)
    (sub : Subscription) : Mqtt N :=
  if m.tas.crashed then m
  else match noti.path_arr with
    | none => m.crash
    | some path_arr =>
      if Names path_arr sub then
        if Answers topic_arr noti.rqi then
          let m := { m with published := m.published ++ [response useaeid topic_arr noti.rqi] }
          match Gateway.send_tas num m.tas path_arr noti.cinObj with
          | none => m.crash
          | some tas => { m with tas := tas }
        else m.crash
      else m

/-- What is done with a parsed message. -/
def action (useaeid : Text) (usesubname : List Subscription) (topic_arr : List Text)
    (m : Mqtt N) (jsonObj : Value N) : Mqtt N :=
  match mqtt_noti_action num jsonObj with
  | none => m.crash
  | some none => m
  | some (some noti) => usesubname.foldl (inform num useaeid topic_arr noti) m

/-- The topic is one of requests to the gateway's AE. -/
def Ours (useaeid : Text) (topic_arr : List Text) : Prop :=
  topic_arr[1]? = some "oneM2M".toList ∧ topic_arr[2]? = some "req".toList ∧
    topic_arr[4]? = some useaeid

instance (useaeid : Text) (topic_arr : List Text) : Decidable (Ours useaeid topic_arr) :=
  inferInstanceAs (Decidable (_ ∧ _ ∧ _))

/-- How the body is to be read. -/
def bodytype (usebodytype : BodyType) (topic_arr : List Text) : BodyType :=
  match topic_arr[5]? with
  | none => usebodytype
  | some t => if t = "xml".toList then .xml else .json

end Mqtt

/-- What the listener of `message` is given by the rest of the program. -/
structure Listener (N : Type) where
  bodies : Bodies N
  usebodytype : BodyType
  useaeid : Text
  usesubname : List Subscription

namespace Listener

variable (li : Listener N)

/-- The tree of a message to the gateway's AE; `none` where `JSON.parse` throws, `some none`
where there is none. -/
def tree (topic body : Text) : Option (Option (Value N)) :=
  if Mqtt.Ours li.useaeid (topic.splitOn '/') then
    match Mqtt.bodytype li.usebodytype (topic.splitOn '/') with
    | .xml => some (li.bodies.xml body)
    | .json => (li.bodies.json body).map some
  else some none

/-- The listener of `message`. -/
def message (m : Mqtt N) (topic body : Text) : Mqtt N :=
  match li.tree topic body with
  | none => m.crash
  | some none => m
  | some (some jsonObj) =>
    Mqtt.action li.bodies.num li.useaeid li.usesubname (topic.splitOn '/') m jsonObj

end Listener

/-- An event of the gateway that has been set up. -/
inductive MqttEvent where
  -- of the scripts' part; notifications come as messages
  | tas (l : Label)
  | message (topic body : Text)
  deriving DecidableEq, Repr

namespace Mqtt

variable (li : Listener N)

def step (m : Mqtt N) : MqttEvent → Mqtt N
  | .tas l => { m with tas := m.tas.step l }
  | .message topic body => if m.tas.crashed then m else li.message m topic body

/-! ## Messages of the server's form -/

/-- A notification about an instance, as the server sends it: a text in each place that is
read, and whatever else there is besides. -/
structure Notifies (jsonObj : Value N) (sur con : String) (rqi : Value N) : Prop where
  sur_ne : sur ≠ ""
  fields : ∃ top rqp pc sgn nev rep cin : List (String × Json N),
    jsonObj = some (.object top) ∧ top.lookup "m2m:rqp" = some (.object rqp) ∧
      rqp.lookup "rqi" = rqi ∧ rqp.lookup "pc" = some (.object pc) ∧
      pc.lookup "m2m:sgn" = some (.object sgn) ∧ sgn.lookup "sur" = some (.string sur) ∧
      sgn.lookup "nev" = some (.object nev) ∧ nev.lookup "rep" = some (.object rep) ∧
      rep.lookup "m2m:cin" = some (.object cin) ∧ cin.lookup "con" = some (.string con)

theorem mqtt_noti_action_notifies (num : Numbers N) {jsonObj rqi : Value N} {sur con : String}
    (h : Notifies jsonObj sur con rqi) :
    ∃ cinObj, con_of cinObj = some (some (.string con)) ∧
      mqtt_noti_action num jsonObj = some (some ⟨some (sur.toList.splitOn '/'), cinObj,
        if isNull rqi then some (.string "") else rqi⟩) := by
  obtain ⟨hne, top, rqp, pc, sgn, nev, rep, cin, rfl, hrqp, rfl, hpc, hsgn, hsur, hnev, hrep, hcin,
    hcon⟩ := h
  refine ⟨some (.object cin), ?_, ?_⟩
  · simp [con_of, prop, hcon, isNull]
  · simp [mqtt_noti_action, cin_of, either, prop, isNull, truthy, split, hrqp, hpc, hsgn, hsur,
      hnev, hrep, hcin, hne]

/-! ## What is written -/

/-- The two properties, with what has been written for their values. -/
def written (ctname con : Text) : Text :=
  '{' :: '"' :: ("ctname".toList ++ '"' :: ':' :: '"' :: (ctname ++ '"' :: ',' :: '"' ::
    ("con".toList ++ '"' :: ':' :: '"' :: (con ++ ['"', '}']))))

theorem reply_eq (ctname con : Text) : reply ctname con = written ctname con := by
  have hopen : "\x7b\"ctname\":\"".toList
      = '{' :: '"' :: ("ctname".toList ++ ['"', ':', '"']) := rfl
  have hmid : "\",\"con\":\"".toList
      = '"' :: ',' :: '"' :: ("con".toList ++ ['"', ':', '"']) := rfl
  have hclose : "\"\x7d".toList = ['"', '}'] := rfl
  unfold reply written
  rw [hopen, hmid, hclose]
  generalize "ctname".toList = key
  generalize "con".toList = key'
  simp only [List.append_assoc, List.cons_append, List.nil_append]

theorem cin_text_eq (num : Numbers N) (ctname : Text) (con : String) :
    cin_text num (some ctname) (some (.string con))
      = written (ctname.flatMap escape) (con.toList.flatMap escape) := by
  have hfields : defined [("ctname", (some ctname).map fun c => Json.string (String.ofList c)),
      ("con", some (.string con))]
      = ([("ctname", .string (String.ofList ctname)), ("con", .string con)] :
        List (String × Json N)) := rfl
  have hctname : quote "ctname".toList = '"' :: ("ctname".toList ++ ['"']) := by decide
  have hcon : quote "con".toList = '"' :: ("con".toList ++ ['"']) := by decide
  unfold cin_text written
  rw [hfields]
  simp only [stringify, stringifyFields, hctname, hcon, String.toList_ofList]
  generalize "ctname".toList = key
  generalize "con".toList = key'
  simp [quote, List.intercalate, List.intersperse]

/-- Of plain texts `JSON.stringify(cin)` is what `Tas.lean` takes it for. -/
theorem cin_text_plain (num : Numbers N) {ctname : Text} {con : String}
    (hctname : ∀ c ∈ ctname, Plain c) (hcon : ∀ c ∈ con.toList, Plain c) :
    cin_text num (some ctname) (some (.string con)) = reply ctname con.toList := by
  rw [cin_text_eq, flatMap_escape (literal_of_all_plain hctname),
    flatMap_escape (literal_of_all_plain hcon), reply_eq]

/-- **`send_tas` of a plain text** is that of `Tas.lean`. -/
theorem send_tas_plain (num : Numbers N) (g : Tas) {path_arr : List Text} {ctname : Text}
    {cinObj : Value N} {con : String} (hpath : beforeLast path_arr = some ctname)
    (hobj : con_of cinObj = some (some (.string con))) (hctname : ∀ c ∈ ctname, Plain c)
    (hcon : ∀ c ∈ con.toList, Plain c) :
    Gateway.send_tas num g path_arr cinObj = some (g.send_tas ctname con.toList) := by
  have hempty : con = "" ↔ con.toList = [] := by
    rw [← String.toList_eq_nil_iff]
  unfold Gateway.send_tas Tas.send_tas
  rw [hobj, hpath]
  simp only [Option.bind_eq_bind, Option.bind_some, looseEmpty_string, decide_eq_true_eq,
    cin_text_plain num hctname hcon]
  by_cases hnil : con = ""
  · rw [if_pos hnil, if_pos (hempty.mp hnil)]
    rfl
  · rw [if_neg hnil, if_neg fun h => hnil (hempty.mpr h)]
    change (match g.socket_arr ctname with
      | none => _
      | some socket => _) = _
    cases g.socket_arr ctname with
    | none => rfl
    | some socket => rfl

/-! ## Runs -/

/-- The notifications a message is, one for each subscription it names. -/
def notified (li : Listener N) (topic body : Text) : List Label :=
  match li.tree topic body with
  | some (some jsonObj) =>
    match mqtt_noti_action li.bodies.num jsonObj with
    | some (some ⟨some path_arr, cinObj, _⟩) =>
      match con_of cinObj with
      | some (some (.string con)) =>
        (li.usesubname.filter (Names path_arr)).map fun _ =>
          .notify (shown (beforeLast path_arr)) con.toList
      | _ => []
    | _ => []
  | _ => []

/-- The responses to it. -/
def responses (li : Listener N) (topic body : Text) : List (Response N) :=
  match li.tree topic body with
  | some (some jsonObj) =>
    match mqtt_noti_action li.bodies.num jsonObj with
    | some (some ⟨some path_arr, _, rqi⟩) =>
      (li.usesubname.filter (Names path_arr)).map fun _ =>
        response li.useaeid (topic.splitOn '/') rqi
    | _ => []
  | _ => []

/-- What an event is for the scripts' part. -/
def labels (li : Listener N) (m : Mqtt N) : MqttEvent → List Label
  | .tas l => [l]
  | .message topic body => if m.tas.crashed then [] else notified li topic body

/-- What it has published. -/
def answers (li : Listener N) (m : Mqtt N) : MqttEvent → List (Response N)
  | .tas _ => []
  | .message topic body => if m.tas.crashed then [] else responses li topic body

/-- A message that is not for the gateway, has no notification in it, or is one of the
server's form, about a container and with a content of plain characters, that can be answered. -/
def Sane (li : Listener N) (_ : Mqtt N) : MqttEvent → Prop
  | .tas _ => True
  | .message topic body =>
    li.tree topic body = some none ∨
    (∃ jsonObj, li.tree topic body = some (some jsonObj) ∧
      mqtt_noti_action li.bodies.num jsonObj = some none) ∨
    ∃ jsonObj sur con rqi ctname, li.tree topic body = some (some jsonObj) ∧
      Notifies jsonObj sur con rqi ∧ beforeLast (sur.toList.splitOn '/') = some ctname ∧
      (∀ c ∈ ctname, Plain c) ∧ (∀ c ∈ con.toList, Plain c) ∧ Answers (topic.splitOn '/') rqi

theorem answers_rqi (topic_arr : List Text) (rqi : Value N) :
    Answers topic_arr (if isNull rqi then some (.string "") else rqi) ↔ Answers topic_arr rqi := by
  rcases rqi with _ | rqi
  · exact iff_of_true (fun _ => rfl) fun _ => rfl
  · cases rqi with
    | null => exact iff_of_true (fun _ => rfl) fun _ => rfl
    | bool | number | string | array | object => exact Iff.rfl

/-- **All subscriptions a message names.** -/
theorem foldl_inform (num : Numbers N) (useaeid : Text) (topic_arr : List Text)
    {path_arr : List Text} {ctname : Text} {cinObj rqi : Value N} {con : String}
    (hpath : beforeLast path_arr = some ctname) (hobj : con_of cinObj = some (some (.string con)))
    (hctname : ∀ c ∈ ctname, Plain c) (hcon : ∀ c ∈ con.toList, Plain c)
    (hanswers : Answers topic_arr rqi) (subs : List Subscription) {m : Mqtt N}
    (halive : m.tas.crashed = false) :
    subs.foldl (inform num useaeid topic_arr ⟨some path_arr, cinObj, rqi⟩) m
      = ⟨run Tas.step m.tas ((subs.filter (Names path_arr)).map fun _ => .notify ctname con.toList),
        m.published ++
          (subs.filter (Names path_arr)).map fun _ => response useaeid topic_arr rqi⟩ := by
  induction subs generalizing m with
  | nil => simp
  | cons sub subs ih =>
    rw [List.foldl_cons]
    by_cases hnames : Names path_arr sub
    · have hstep : inform num useaeid topic_arr ⟨some path_arr, cinObj, rqi⟩ m sub
          = ⟨m.tas.step (.notify ctname con.toList),
            m.published ++ [response useaeid topic_arr rqi]⟩ := by
        simp only [inform, halive, Bool.false_eq_true, if_false, if_pos hnames, if_pos hanswers,
          send_tas_plain num m.tas hpath hobj hctname hcon]
        rw [Tas.step_alive halive]
        rfl
      have halive' : (m.tas.step (.notify ctname con.toList)).crashed = false := by
        obtain ⟨written, heq⟩ := m.tas.send_tas_frame ctname con.toList
        rw [Tas.step_alive halive, Tas.handle, heq]
        exact halive
      rw [hstep, List.filter_cons_of_pos (by simpa using hnames), List.map_cons, List.map_cons,
        run_cons]
      refine (ih (m := ⟨m.tas.step (.notify ctname con.toList),
        m.published ++ [response useaeid topic_arr rqi]⟩) halive').trans ?_
      rw [List.append_assoc]
      rfl
    · have hstep : inform num useaeid topic_arr ⟨some path_arr, cinObj, rqi⟩ m sub = m := by
        simp only [inform, halive, Bool.false_eq_true, if_false, if_neg hnames]
      rw [hstep, List.filter_cons_of_neg (by simpa using hnames)]
      exact ih halive

/-- **What a sane event does.** -/
theorem step_sane (li : Listener N) {m : Mqtt N} {e : MqttEvent} (h : Sane li m e) :
    step li m e = ⟨run Tas.step m.tas (labels li m e), m.published ++ answers li m e⟩ := by
  cases e with
  | tas l =>
    rw [answers, List.append_nil]
    rfl
  | message topic body =>
    unfold step labels answers
    dsimp only
    by_cases hcrashed : m.tas.crashed = true
    · rw [if_pos hcrashed, if_pos hcrashed, if_pos hcrashed, List.append_nil]
      rfl
    rw [if_neg hcrashed, if_neg hcrashed, if_neg hcrashed]
    unfold Listener.message notified responses
    rcases h with hnone | ⟨jsonObj, htree, hno⟩ | ⟨jsonObj, sur, con, rqi, ctname, htree, hnotifies,
      hpath, hctname, hcon, hanswers⟩
    · rw [hnone, List.append_nil]
      rfl
    · simp only [htree, action, hno, List.append_nil]
      rfl
    · obtain ⟨cinObj, hobj, haction⟩ := mqtt_noti_action_notifies li.bodies.num hnotifies
      simp only [htree, action, haction, hobj, hpath]
      exact foldl_inform li.bodies.num li.useaeid _ hpath hobj hctname hcon
        ((answers_rqi _ _).mpr hanswers) li.usesubname (by simpa using hcrashed)

/-- A notification that the mode has become 1. -/
def noti_xml : Text :=
  ("<m2m:rqp><op>5</op><rqi>k7</rqi><pc><m2m:sgn><nev><rep><m2m:cin><con>1</con></m2m:cin></rep>" ++
    "</nev><sur>/mobius-yt/dongguk-capstone/parking_mode/sub-ctrl</sur></m2m:sgn></pc></m2m:rqp>").toList

/-- What `xml2js` makes of it. -/
def noti_tree : Json ℕ :=
  .object [("m2m:rqp", .object [("op", .string "5"), ("rqi", .string "k7"),
    ("pc", .object [("m2m:sgn", .object [
      ("nev", .object [("rep", .object [("m2m:cin", .object [("con", .string "1")])])]),
      ("sur", .string "/mobius-yt/dongguk-capstone/parking_mode/sub-ctrl")])])])]

/-- A parser that knows one document. -/
def xml_of (document : Text) (tree : Json ℕ) (body : Text) : Option (Value ℕ) :=
  if body = document then some (some tree) else none

/-- The listener of `conf.json`. -/
def listener_json : Listener ℕ where
  bodies := ⟨⟨fun n => (Nat.repr n).toList, fun n => (Nat.repr n).toList, (· == 0)⟩,
    xml_of noti_xml noti_tree, fun _ => none⟩
  usebodytype := .xml
  useaeid := conf_json.useaeid
  usesubname := conf_json.usesubname

def noti_topic : Text := "/oneM2M/req/mobius-yt/dongguk-capstone/xml".toList

theorem tree_noti : listener_json.tree noti_topic noti_xml = some (some (some noti_tree)) := by
  have hours : Ours listener_json.useaeid (noti_topic.splitOn '/') := by decide +kernel
  have hxml : bodytype listener_json.usebodytype (noti_topic.splitOn '/') = .xml := by
    decide +kernel
  have hbody : listener_json.bodies.xml = xml_of noti_xml noti_tree := rfl
  rw [Listener.tree, if_pos hours, hxml, hbody]
  dsimp only
  rw [xml_of, if_pos rfl]

/-- `combined_mode.py` says hello, and the mode becomes 1. -/
def mode_1 : List MqttEvent :=
  [.tas (.connect 0), .tas (.data 0 (message "parking_mode".toList "hello".toList)),
    .message noti_topic noti_xml]

/-- Where `mqtt_noti_action` looks for the notification. -/
def sgn_of (num : Numbers N) (jsonObj : Value N) : Value N :=
  let pc := field (field jsonObj "m2m:rqp") "pc"
  if truthy num (field pc "m2m:sgn") then field pc "m2m:sgn" else field pc "sgn"

theorem either_eq (num : Numbers N) {v : Value N} (hv : isNull v = false) (long short : String) :
    either num v long short
      = some (if truthy num (field v long) then field v long else field v short) := by
  unfold either
  rw [prop_eq, prop_eq, hv]
  simp only [Bool.false_eq_true, if_false, Option.bind_eq_bind, Option.bind_some]
  split_ifs
  · rfl
  · rfl

theorem either_pc (num : Numbers N) (rqp : Value N) :
    either num (if isNull (field rqp "pc") then some (.string "") else field rqp "pc") "m2m:sgn"
        "sgn"
      = some (if truthy num (field (field rqp "pc") "m2m:sgn") then
          field (field rqp "pc") "m2m:sgn" else field (field rqp "pc") "sgn") := by
  cases hpc : isNull (field rqp "pc") with
  | false =>
    rw [if_neg Bool.false_ne_true]
    exact either_eq num hpc _ _
  | true =>
    rw [if_pos rfl, field_of_isNull hpc, field_of_isNull hpc]
    rfl

/-- The instance of a notification is always an object. -/
theorem cin_of_some (num : Numbers N) {sgnObj : Value N} (h : truthy num sgnObj = true) :
    ∃ cinObj, cin_of num sgnObj = some cinObj ∧ truthy num cinObj = true := by
  have hempty : truthy num (some (.object [])) = true := rfl
  have hnone : ∃ cinObj, (some (some (.object [])) : Option (Value N)) = some cinObj ∧
      truthy num cinObj = true := ⟨_, rfl, hempty⟩
  unfold cin_of
  rw [prop_eq, not_isNull_of_truthy num h]
  simp only [Bool.false_eq_true, if_false, Option.bind_eq_bind, Option.bind_some]
  by_cases hnev : truthy num (field sgnObj "nev") = true
  · rw [if_pos hnev, prop_eq, not_isNull_of_truthy num hnev]
    simp only [Bool.false_eq_true, if_false, Option.bind_some]
    by_cases hrep : truthy num (field (field sgnObj "nev") "rep") = true
    · rw [if_pos hrep, either_eq num (not_isNull_of_truthy num hrep)]
      simp only [Option.bind_some]
      refine ⟨_, rfl, ?_⟩
      split_ifs with h₁ h₂
      · exact h₁
      · exact h₂
      · exact hempty
    · rw [if_neg hrep]
      exact hnone
  · rw [if_neg hnev]
    exact hnone

/-- **What `mqtt_noti_action` does.** -/
theorem mqtt_noti_action_eq (num : Numbers N) {jsonObj : Value N} (hv : isNull jsonObj = false) :
    mqtt_noti_action num jsonObj =
      if isNull (field jsonObj "m2m:rqp") then none
      else if truthy num (sgn_of num jsonObj) then do
        let path_arr ← if truthy num (field (sgn_of num jsonObj) "sur") then
          (split '/' (field (sgn_of num jsonObj) "sur")).map some else some none
        let cinObj ← cin_of num (sgn_of num jsonObj)
        return some ⟨path_arr, cinObj, if isNull (field (field jsonObj "m2m:rqp") "rqi") then
          some (.string "") else field (field jsonObj "m2m:rqp") "rqi"⟩
      else some none := by
  unfold mqtt_noti_action
  rw [hv, prop_eq, hv]
  simp only [Bool.false_eq_true, if_false, Option.bind_eq_bind, Option.bind_some]
  cases hrqp : isNull (field jsonObj "m2m:rqp") with
  | true => simp [prop_eq, hrqp]
  | false =>
    rw [prop_eq _ "rqi", prop_eq _ "pc", hrqp]
    simp only [Bool.false_eq_true, if_false, Option.bind_some, either_pc]
    change (if truthy num (sgn_of num jsonObj) = true then _ else _) = _
    by_cases hsgn : truthy num (sgn_of num jsonObj) = true
    · rw [if_pos hsgn, if_pos hsgn]
      change ((prop (sgn_of num jsonObj) "sur").bind _) = _
      rw [prop_eq, not_isNull_of_truthy num hsgn]
      rfl
    · rw [if_neg hsgn, if_neg hsgn]
      rfl

theorem con_of_some (num : Numbers N) {cinObj : Value N} (h : truthy num cinObj = true) :
    ∃ con, con_of cinObj = some con := by
  unfold con_of
  rw [prop_eq, prop_eq, not_isNull_of_truthy num h]
  simp only [Bool.false_eq_true, if_false, Option.bind_eq_bind, Option.bind_some]
  split_ifs
  · exact ⟨_, rfl⟩
  · exact ⟨_, rfl⟩

/-- `send_tas` throws where the content has no text, and does not end the process itself. -/
theorem send_tas_cases (num : Numbers N) (g : Tas) (path_arr : List Text) {cinObj con : Value N}
    (hcon : con_of cinObj = some con) :
    (looseEmpty num con = none ∧ Gateway.send_tas num g path_arr cinObj = none) ∨
      looseEmpty num con ≠ none ∧ ∃ g', Gateway.send_tas num g path_arr cinObj = some g' ∧
        g'.crashed = g.crashed := by
  unfold Gateway.send_tas
  rw [hcon]
  simp only [Option.bind_eq_bind, Option.bind_some]
  cases hempty : looseEmpty num con with
  | none => exact Or.inl ⟨rfl, rfl⟩
  | some empty =>
    refine Or.inr ⟨by simp, ?_⟩
    simp only [Option.bind_some]
    split_ifs
    · exact ⟨g, rfl, rfl⟩
    · split
      · exact ⟨g, rfl, rfl⟩
      · exact ⟨_, rfl, rfl⟩

theorem foldl_inform_crashed (num : Numbers N) (useaeid : Text) (topic_arr : List Text)
    (noti : Noti N) (subs : List Subscription) {m : Mqtt N} (hm : m.tas.crashed = true) :
    subs.foldl (inform num useaeid topic_arr noti) m = m := by
  induction subs with
  | nil => rfl
  | cons sub subs ih =>
    have hstep : inform num useaeid topic_arr noti m sub = m := if_pos hm
    rw [List.foldl_cons, hstep, ih]

/-- **Which notifications end the process**: one without `sur`, if there is a subscription,
and one that cannot be answered or whose content has no text, if it names one. -/
theorem foldl_inform_ends (num : Numbers N) (useaeid : Text) (topic_arr : List Text)
    {noti : Noti N} {con : Value N} (hcon : con_of noti.cinObj = some con)
    (subs : List Subscription) {m : Mqtt N} (hm : m.tas.crashed = false) :
    (subs.foldl (inform num useaeid topic_arr noti) m).tas.crashed = true ↔
      (noti.path_arr = none ∧ subs ≠ []) ∨
        ∃ path_arr, noti.path_arr = some path_arr ∧ (∃ sub ∈ subs, Names path_arr sub) ∧
          (¬ Answers topic_arr noti.rqi ∨ looseEmpty num con = none) := by
  induction subs generalizing m with
  | nil => simp [hm]
  | cons sub subs ih =>
    rw [List.foldl_cons]
    cases hpath : noti.path_arr with
    | none =>
      have hstep : inform num useaeid topic_arr noti m sub = m.crash := by
        simp only [inform, hm, Bool.false_eq_true, if_false, hpath]
      rw [hstep, foldl_inform_crashed num useaeid topic_arr noti subs rfl]
      exact iff_of_true rfl (Or.inl ⟨rfl, List.cons_ne_nil _ _⟩)
    | some path_arr =>
      rw [hpath] at ih
      by_cases hnames : Names path_arr sub
      · by_cases hanswers : Answers topic_arr noti.rqi
        · rcases send_tas_cases num m.tas path_arr hcon with ⟨hnone, hsend⟩ |
            ⟨hsome, g', hsend, hg'⟩
          · have hstep : (inform num useaeid topic_arr noti m sub).tas.crashed = true := by
              simp only [inform, hm, Bool.false_eq_true, if_false, hpath, if_pos hnames,
                if_pos hanswers, hsend]
              rfl
            rw [foldl_inform_crashed num useaeid topic_arr noti subs hstep]
            exact iff_of_true hstep
              (Or.inr ⟨path_arr, rfl, ⟨sub, List.mem_cons_self, hnames⟩, Or.inr hnone⟩)
          · have hstep : (inform num useaeid topic_arr noti m sub).tas.crashed = false := by
              simp only [inform, hm, Bool.false_eq_true, if_false, hpath, if_pos hnames,
                if_pos hanswers, hsend]
              exact hg'.trans hm
            have hnot (subs : List Subscription) :
                ¬ (((some path_arr : Option (List Text)) = none ∧ subs ≠ []) ∨
                  ∃ path_arr', some path_arr = some path_arr' ∧
                    (∃ sub ∈ subs, Names path_arr' sub) ∧
                    (¬ Answers topic_arr noti.rqi ∨ looseEmpty num con = none)) := by
              rintro (⟨h, -⟩ | ⟨-, -, -, h | h⟩)
              · simp at h
              · exact h hanswers
              · exact hsome h
            rw [ih hstep]
            exact iff_of_false (hnot subs) (hnot (sub :: subs))
        · have hstep : inform num useaeid topic_arr noti m sub = m.crash := by
            simp only [inform, hm, Bool.false_eq_true, if_false, hpath, if_pos hnames,
              if_neg hanswers]
          rw [hstep, foldl_inform_crashed num useaeid topic_arr noti subs rfl]
          exact iff_of_true rfl
            (Or.inr ⟨path_arr, rfl, ⟨sub, List.mem_cons_self, hnames⟩, Or.inl hanswers⟩)
      · have hstep : inform num useaeid topic_arr noti m sub = m := by
          simp only [inform, hm, Bool.false_eq_true, if_false, hpath, if_neg hnames]
        rw [hstep, ih hm]
        simp [hnames]

/-- What ends the process in a notification: a `sur` that is no text, none at all, or, of one that
names a subscription, an `rqi` that cannot be written or a content without a text. -/
def Fatal (li : Listener N) (topic_arr : List Text) (rqi sgnObj : Value N) : Prop :=
  let sur := field sgnObj "sur"
  (truthy li.bodies.num sur = true ∧ split '/' sur = none) ∨
  (truthy li.bodies.num sur = false ∧ li.usesubname ≠ []) ∨
  truthy li.bodies.num sur = true ∧ ∃ path_arr, split '/' sur = some path_arr ∧
    (∃ sub ∈ li.usesubname, Names path_arr sub) ∧
    (¬ Answers topic_arr rqi ∨
      ((cin_of li.bodies.num sgnObj).bind con_of).bind (looseEmpty li.bodies.num) = none)

end Mqtt

end SmartBike.Gateway
