/-
The messages that the gateway publishes over MQTT, as XML: the requests of `mqtt_adn.js`, and the
responses of `response_mqtt`, which `app.js` and `mqtt_app.js` share.

The content of a script and the identifier of somebody else's request are written into them; none
of them brings in a tag (`nested_message`).
-/
import SmartBike.Gateway.Body
import SmartBike.Gateway.MqttApp

set_option autoImplicit false

open Markup

namespace SmartBike.Gateway

namespace MqttRequest

/-- `op`: 1 creates, 2 retrieves and 4 deletes. -/
def op : MqttRequest → Text
  | .adn (.rtvae _) => ['2']
  | .adn (.delsub _) => ['4']
  | .adn _ => ['1']
  | .crtci _ _ _ => ['1']

/-- `ty`, of what is to be created. -/
def ty : MqttRequest → Option Text
  | .adn (.crtae _ _ _) => some ['2']
  | .adn (.crtct _ _) => some ['3']
  | .adn (.crtsub _ _ _) => some ['2', '3']
  | .crtci _ _ _ => some ['4']
  | .adn (.rtvae _) => none
  | .adn (.delsub _) => none

def pc : MqttRequest → Data
  | .adn (.crtae _ appname appid) =>
    .object [] [("m2m:ae".toList, .object [("rn".toList, appname)]
      [("api".toList, .text appid), ("rr".toList, .text "true".toList)])]
  | .adn (.crtct _ ctname) =>
    .object [] [("m2m:cnt".toList, .object [("rn".toList, ctname)]
      [("lbl".toList, .array [.text ctname])])]
  | .adn (.crtsub _ subname nu) =>
    .object [] [("m2m:sub".toList, .object [("rn".toList, subname)]
      [("enc".toList, .object [] [("net".toList, .array [.text ['3']])]),
        ("nu".toList, .array [.text (nu.getD [])]), ("nct".toList, .text ['2'])])]
  -- `ciname` is empty
  | .crtci _ _ content =>
    .object [] [("m2m:cin".toList, .object []
      [("rn".toList, .text []), ("con".toList, .text (content.getD []))])]
  | .adn (.rtvae _) => .object [] []
  | .adn (.delsub _) => .object [] []

/-- The message of a request, as XML. -/
def message (r : MqttRequest) (aeid rqi : Text) : Text :=
  js2xmlparser "m2m:rqp".toList (.object xmlns
    ([("op".toList, .text r.op), ("to".toList, .text r.path), ("fr".toList, .text aeid),
      ("rqi".toList, .text rqi)] ++ r.ty.toList.map (fun ty => ("ty".toList, .text ty)) ++
      [("pc".toList, r.pc)]))

end MqttRequest

/-- `response_mqtt`, as XML; `to` and `inpc` are empty. -/
def response_mqtt (rsc fr rqi : Text) : Text :=
  js2xmlparser "m2m:rsp".toList (.object xmlns
    [("rsc".toList, .text rsc), ("to".toList, .text []), ("fr".toList, .text fr),
      ("rqi".toList, .text rqi), ("pc".toList, .text [])])

/-! ## Names -/

theorem name_message {name : String} (h : name ∈ ["m2m:rqp", "m2m:rsp", "m2m:ae", "m2m:cnt",
    "m2m:sub", "m2m:cin", "op", "to", "fr", "rqi", "ty", "pc", "rsc", "rn", "api", "rr", "lbl",
    "enc", "net", "nu", "nct", "con"]) : Name name.toList := by
  have hne : name.toList ≠ [] := by
    revert name
    decide
  have hall : name.toList.all
      (fun c => c ≠ ' ' && c ≠ '/' && c ≠ '<' && c ≠ '>' && c ≠ '?') = true := by
    revert name
    decide
  exact name_of_all hne hall

namespace Js2xmlparser

theorem named_text (t : Text) : Named (.text t) := trivial

theorem namedAttributes_nil : NamedAttributes [] := fun _ h => absurd h List.not_mem_nil

theorem namedAttributes_rn (value : Text) : NamedAttributes [("rn".toList, value)] := by
  intro a ha
  rw [List.mem_singleton.mp ha]
  exact name_message (by decide)

theorem namedFields_append {fields fields' : List (Text × Data)} (h : NamedFields fields)
    (h' : NamedFields fields') : NamedFields (fields ++ fields') := by
  induction fields with
  | nil => exact h'
  | cons field fields ih => exact ⟨h.1, h.2.1, ih h.2.2⟩

/-- A resource in `pc`. -/
theorem named_resource {name : String} (hname : Name name.toList)
    {attributes : List (Text × Text)} (hattributes : NamedAttributes attributes)
    {fields : List (Text × Data)} (hfields : NamedFields fields) :
    Named (.object [] [(name.toList, .object attributes fields)]) :=
  ⟨namedAttributes_nil, hname, ⟨hattributes, hfields⟩, trivial⟩

end Js2xmlparser

open Js2xmlparser

theorem named_pc (r : MqttRequest) : Named r.pc := by
  cases r with
  | adn r =>
    cases r with
    | crtae parent_path appname appid =>
      refine named_resource (name_message (by decide)) (namedAttributes_rn appname) ?_
      exact ⟨name_message (by decide), named_text _, name_message (by decide), named_text _, trivial⟩
    | rtvae path => exact ⟨namedAttributes_nil, trivial⟩
    | crtct parent_path ctname =>
      refine named_resource (name_message (by decide)) (namedAttributes_rn ctname) ?_
      exact ⟨name_message (by decide), ⟨named_text _, trivial⟩, trivial⟩
    | delsub path => exact ⟨namedAttributes_nil, trivial⟩
    | crtsub parent_path subname nu =>
      have henc : Named (.object [] [("net".toList, .array [.text ['3']])]) :=
        ⟨namedAttributes_nil, name_message (by decide), ⟨named_text _, trivial⟩, trivial⟩
      refine named_resource (name_message (by decide)) (namedAttributes_rn subname) ?_
      exact ⟨name_message (by decide), henc, name_message (by decide), ⟨named_text _, trivial⟩,
        name_message (by decide), named_text _, trivial⟩
  | crtci socket parent_path content =>
    refine named_resource (name_message (by decide)) namedAttributes_nil ?_
    exact ⟨name_message (by decide), named_text _, name_message (by decide), named_text _, trivial⟩

/-- **Well nested.** Whatever a script writes, and whatever identifiers and names there are, every
message that the gateway publishes is a document whose elements are closed in the order of their
nesting. -/
theorem nested_message (r : MqttRequest) (aeid rqi rsc : Text) :
    Nested (r.message aeid rqi) ∧ Nested (response_mqtt rsc aeid rqi) := by
  constructor
  · refine nested_object (name_message (by decide)) named_xmlns ?_
    refine namedFields_append (namedFields_append ?_ ?_) ?_
    · exact ⟨name_message (by decide), named_text _, name_message (by decide), named_text _,
        name_message (by decide), named_text _, name_message (by decide), named_text _, trivial⟩
    · cases r.ty with
      | none => trivial
      | some ty => exact ⟨name_message (by decide), named_text _, trivial⟩
    · exact ⟨name_message (by decide), named_pc r, trivial⟩
  · refine nested_object (name_message (by decide)) named_xmlns ?_
    exact ⟨name_message (by decide), named_text _, name_message (by decide), named_text _,
      name_message (by decide), named_text _, name_message (by decide), named_text _,
      name_message (by decide), named_text _, trivial⟩

end SmartBike.Gateway
