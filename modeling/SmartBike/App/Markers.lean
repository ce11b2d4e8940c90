/-
`RequestRoad.doInBackground` and `addMarker` of `RouteActivity.java`: the markers of a route.

A response has a feature for each point of the route and one for each line between two of
them. The loop does not look at their types. It takes the first two entries of the
`coordinates` of every feature as texts and sets a marker if both parse as doubles, which
those of a line do not, being arrays. Anything else that goes wrong in a feature ends the
loop.

The identifiers are numbered by a field of the activity, an `int`. The tasks of an activity
run one after the other.
-/
import Mathlib.Data.List.Nodup
import Mathlib.Data.List.Range
import SmartBike.App.Route
import SmartBike.Lib.Json

set_option autoImplicit false

open Runs

namespace SmartBike.App

/-- The texts of the numbers in a response, and what `parseDouble` makes of them. No double
begins with a bracket. -/
structure RoadText (N F : Type*) extends DoubleText F, Json.Numerals N where
  doubleValue : N → F
  parseDouble_valueOf : ∀ n, parseDouble (valueOf n) = some (doubleValue n)
  parseDouble_array : ∀ rest, parseDouble ("[" ++ rest) = none

/-- A marker, by its point and the title of its callout. -/
structure TMapMarkerItem (F : Type*) where
  point : TMapPoint F
  title : String
  deriving DecidableEq, Repr

/-- The counter of markers, and the calls of `addMarkerItem`, oldest first. -/
structure RouteActivity (F : Type*) where
  id : ℤ
  markers : List (String × TMapMarkerItem F)
  deriving DecidableEq, Repr

namespace RouteActivity

section

variable {N F : Type*}

def init : RouteActivity F := ⟨0, []⟩

/-- `id++`, for an `int`. -/
def increment (id : ℤ) : ℤ := if id = 2147483647 then -2147483648 else id + 1

/-- `"m" + id`. -/
def identifier (id : ℤ) : String := "m" ++ toString id

def addMarker (a : RouteActivity F) (lat lng : F) (title : String) : RouteActivity F :=
  ⟨increment a.id, a.markers ++ [(identifier a.id, ⟨⟨lat, lng⟩, title⟩)]⟩

/-! ## `doInBackground` -/

variable (J : RoadText N F)

/-- The locals `proo`, `prox` and `proy`, lines 303 to 306; `none` for a `JSONException`. -/
def coordinates (JObject : Json.Fields N) : Option (String × String × String) :=
  (JObject.getJSONObject "properties").bind fun properties =>
  (properties.getString J.toNumerals "description").bind fun proo =>
  (JObject.getJSONObject "geometry").bind fun geometry =>
  (geometry.getString J.toNumerals "type").bind fun _pro =>
  (geometry.getJSONArray "coordinates").bind fun items =>
  (items.getString J.toNumerals 0).bind fun prox =>
  (items.getString J.toNumerals 1).map fun proy => (proo, prox, proy)

/-- The inner `try`, lines 309 to 316. -/
def tryMarker (a : RouteActivity F) (proo prox proy : String) : RouteActivity F :=
  match J.parseDouble prox, J.parseDouble proy with
  | some dx, some dy => a.addMarker dy dx proo
  | _, _ => a

/-- The loop over the features, with the local `result`, up to its end or to the first
`JSONException`. -/
def loop (a : RouteActivity F) (result : String) : Json.Items N → RouteActivity F × String
  | [] => (a, result)
  | item :: items =>
    match item.asObject with
    | none => (a, result)
    | some JObject =>
      match JObject.getString J.toNumerals "geometry" with
      | none => (a, result)
      | some result =>
        match JObject.getString J.toNumerals "properties", coordinates J JObject with
        | some _, some (proo, prox, proy) => loop (tryMarker J a proo prox proy) result items
        | _, _ => (a, result)

/-- `doInBackground`, with the response as `new JSONObject` has parsed it, or `none` where
that throws. -/
def doInBackground (a : RouteActivity F) (root : Option (Json.Fields N)) :
    RouteActivity F × String :=
  match root.bind fun root => root.getJSONArray "features" with
  | none => (a, "FALSE")
  | some countriesArray =>
    if countriesArray.length < 1 then (a, "FALSE")
    else
      let (a, result) := loop J a "" countriesArray
      (a, if result = "1" then "TRUE" else "FALSE")

/-- A request of the activity. -/
def step (a : RouteActivity F) (root : Option (Json.Fields N)) : RouteActivity F :=
  (doInBackground J a root).1

/-- The identifiers of the markers. -/
def identifiers (a : RouteActivity F) : List String := a.markers.map Prod.fst

/-- The markers themselves. -/
def marker_items (a : RouteActivity F) : List (TMapMarkerItem F) := a.markers.map Prod.snd

end

/-! ## Routes -/

section

variable {N : Type*}

/-- What the features of a route are. -/
inductive Geometry (N : Type*) where
  -- a `Point`, with its coordinates
  | point (x y : N)
  -- anything with an array of coordinate arrays
  | nested
  deriving DecidableEq, Repr

/-- The `coordinates` of a geometry. -/
def Coordinates (geometry : Json.Fields N) : Geometry N → Prop
  | .point x y => geometry.lookup "type" = some (.string "Point") ∧
      ∃ rest, geometry.lookup "coordinates" = some (.array (.number x :: .number y :: rest))
  | .nested => (∃ type, geometry.lookup "type" = some type) ∧
      ∃ first second rest, geometry.lookup "coordinates"
        = some (.array (.array first :: .array second :: rest))

/-- A feature with this description and geometry. -/
def Feature (item : Json N) (feature : String × Geometry N) : Prop :=
  ∃ fields properties geometry, item = .object fields ∧
    fields.lookup "properties" = some (.object properties) ∧
    properties.lookup "description" = some (.string feature.1) ∧
    fields.lookup "geometry" = some (.object geometry) ∧ Coordinates geometry feature.2

/-- The features of a response. -/
def Features (root : Json.Fields N) (features : List (String × Geometry N)) : Prop :=
  ∃ items, root.lookup "features" = some (.array items) ∧ List.Forall₂ Feature items features

/-- The marker of a feature, if it is to have one. -/
def marker {F : Type*} (J : RoadText N F) : String × Geometry N → Option (TMapMarkerItem F)
  | (description, .point x y) => some ⟨⟨J.doubleValue y, J.doubleValue x⟩, description⟩
  | (_, .nested) => none

end

/-! ## The markers of a response -/

section

variable {N F : Type*} (J : RoadText N F)

theorem coordinates_of_point {JObject properties geometry : Json.Fields N} {description : String}
    {x y : N} (hprop : JObject.lookup "properties" = some (.object properties))
    (hdesc : properties.lookup "description" = some (.string description))
    (hgeo : JObject.lookup "geometry" = some (.object geometry))
    (hpoint : Coordinates geometry (.point x y)) :
    coordinates J JObject = some (description, J.valueOf x, J.valueOf y) := by
  obtain ⟨htype, rest, hcoord⟩ := hpoint
  simp [coordinates, Json.Fields.getJSONObject_of_lookup hprop,
    Json.Fields.getString_of_lookup _ hdesc, Json.Fields.getJSONObject_of_lookup hgeo,
    Json.Fields.getString_of_lookup _ htype, Json.Fields.getJSONArray_of_lookup hcoord,
    Json.Items.getString]

theorem coordinates_of_nested {JObject properties geometry : Json.Fields N} {description : String}
    (hprop : JObject.lookup "properties" = some (.object properties))
    (hdesc : properties.lookup "description" = some (.string description))
    (hgeo : JObject.lookup "geometry" = some (.object geometry))
    (hnested : Coordinates geometry .nested) :
    ∃ prox proy, coordinates J JObject = some (description, "[" ++ prox, proy) := by
  obtain ⟨⟨type, htype⟩, first, second, rest, hcoord⟩ := hnested
  obtain ⟨prox, hprox⟩ := Json.text_array J.toNumerals first
  refine ⟨prox, Json.text J.toNumerals (.array second), ?_⟩
  simp [coordinates, Json.Fields.getJSONObject_of_lookup hprop,
    Json.Fields.getString_of_lookup _ hdesc, Json.Fields.getJSONObject_of_lookup hgeo,
    Json.Fields.getString_of_lookup _ htype, Json.Fields.getJSONArray_of_lookup hcoord,
    Json.Items.getString, hprox]

/-- What a feature adds. -/
theorem loop_cons {item : Json N} {feature : String × Geometry N} (h : Feature item feature)
    (a : RouteActivity F) (result : String) (items : Json.Items N) :
    ∃ a' result', loop J a result (item :: items) = loop J a' result' items ∧
      a'.marker_items = a.marker_items ++ (marker J feature).toList := by
  obtain ⟨fields, properties, geometry, rfl, hprop, hdesc, hgeo, hcoord⟩ := h
  obtain ⟨description, geo⟩ := feature
  have hgeotext := Json.Fields.getString_of_lookup J.toNumerals hgeo
  have hproptext := Json.Fields.getString_of_lookup J.toNumerals hprop
  cases geo with
  | point x y =>
    have hread := coordinates_of_point J hprop hdesc hgeo hcoord
    refine ⟨a.addMarker (J.doubleValue y) (J.doubleValue x) description,
      Json.text J.toNumerals (.object geometry), ?_, ?_⟩
    · simp only [loop, Json.asObject_object, hgeotext, hproptext, hread, tryMarker,
        J.parseDouble_valueOf]
    · simp [addMarker, marker_items, marker]
  | nested =>
    obtain ⟨prox, proy, hread⟩ := coordinates_of_nested J hprop hdesc hgeo hcoord
    refine ⟨a, Json.text J.toNumerals (.object geometry), ?_, ?_⟩
    · simp only [loop, Json.asObject_object, hgeotext, hproptext, hread, tryMarker,
        J.parseDouble_array]
    · exact (List.append_nil _).symm

theorem marker_items_loop {items : Json.Items N} {features : List (String × Geometry N)}
    (h : List.Forall₂ Feature items features) (a : RouteActivity F) (result : String) :
    (loop J a result items).1.marker_items = a.marker_items ++ features.filterMap (marker J) := by
  induction h generalizing a result with
  | nil => exact (List.append_nil _).symm
  | cons hitem _ ih =>
    rename_i item feature items' features' _
    obtain ⟨a', result', hloop, hadd⟩ := loop_cons J hitem a result items'
    rw [hloop, ih, hadd, List.append_assoc]
    congr 1
    rcases hmarker : marker J feature with _ | m
    · rw [List.filterMap_cons_none hmarker]
      rfl
    · rw [List.filterMap_cons_some hmarker]
      rfl

/-- **One request** adds the markers of its points, in order. -/
theorem marker_items_step {root : Json.Fields N} {features : List (String × Geometry N)}
    (h : Features root features) (a : RouteActivity F) :
    (step J a (some root)).marker_items = a.marker_items ++ features.filterMap (marker J) := by
  obtain ⟨items, hroot, hfeatures⟩ := h
  unfold step doInBackground
  rw [Option.bind_some, Json.Fields.getJSONArray_of_lookup hroot]
  dsimp only
  by_cases hlen : items.length < 1
  · obtain rfl := List.eq_nil_of_length_eq_zero (Nat.lt_one_iff.mp hlen)
    rw [if_pos hlen, List.forall₂_nil_left_iff.mp hfeatures]
    exact (List.append_nil _).symm
  · rw [if_neg hlen]
    exact marker_items_loop J hfeatures a ""

/-! ## The identifiers -/

/-- The counter after `n` markers. -/
def counter (n : ℕ) : ℤ := (n + 2147483648) % 4294967296 - 2147483648

theorem increment_counter (n : ℕ) : increment (counter n) = counter (n + 1) := by
  unfold increment counter
  push_cast
  split_ifs with h
  · omega
  · omega

/-- Within one turn of the counter its values are different. -/
theorem counter_inj {m n : ℕ} (hm : m < 4294967296) (hn : n < 4294967296)
    (h : counter m = counter n) : m = n := by
  unfold counter at h
  omega

theorem repr_injective {m n : ℕ} (h : m.repr = n.repr) : m = n := by
  have hdigits : Nat.toDigits 10 m = Nat.toDigits 10 n := by
    rw [← Nat.toList_repr, ← Nat.toList_repr, h]
  rw [← Nat.ofDigitChars_ten_toDigits (n := m), hdigits, Nat.ofDigitChars_ten_toDigits]

/-- No natural number has the text of a negative one. -/
theorem repr_ne_minus (m : ℕ) (t : String) : m.repr ≠ "-" ++ t := by
  intro h
  have hmem : '-' ∈ Nat.toDigits 10 m := by
    rw [← Nat.toList_repr, h, String.toList_append]
    exact List.mem_cons_self
  have hdigit := Nat.isDigit_of_mem_toDigits (b := 10) (by omega) (by omega) hmem
  exact absurd hdigit (by decide)

theorem identifier_inj {y z : ℤ} (h : identifier y = identifier z) : y = z := by
  unfold identifier at h
  rw [String.append_right_inj, Int.toString_eq_repr, Int.toString_eq_repr, Int.repr_eq_if,
    Int.repr_eq_if] at h
  split_ifs at h with hy hz hz
  · have := repr_injective h
    omega
  · exact absurd h (repr_ne_minus _ _)
  · exact absurd h.symm (repr_ne_minus _ _)
  · have := repr_injective ((String.append_right_inj _).mp h)
    omega

variable {N F : Type*} (J : RoadText N F)

/-- The markers have been numbered one after the other. -/
structure Numbered (a : RouteActivity F) : Prop where
  id : a.id = counter a.markers.length
  identifiers : a.identifiers = (List.range a.markers.length).map fun n => identifier (counter n)

theorem numbered_init : (init : RouteActivity F).Numbered where
  id := by
    change 0 = counter 0
    unfold counter
    omega
  identifiers := rfl

theorem Numbered.addMarker {a : RouteActivity F} (h : a.Numbered) (lat lng : F) (title : String) :
    (a.addMarker lat lng title).Numbered := by
  have hlen : (a.addMarker lat lng title).markers.length = a.markers.length + 1 :=
    List.length_append
  constructor
  · rw [hlen, ← increment_counter, ← h.id]
    rfl
  · rw [hlen, List.range_succ, List.map_append, ← h.identifiers, List.map_singleton, ← h.id]
    exact List.map_append

theorem Numbered.tryMarker {a : RouteActivity F} (h : a.Numbered) (proo prox proy : String) :
    (tryMarker J a proo prox proy).Numbered := by
  unfold RouteActivity.tryMarker
  split
  · exact h.addMarker _ _ _
  · exact h

theorem Numbered.loop {a : RouteActivity F} (h : a.Numbered) (result : String)
    (items : Json.Items N) : (loop J a result items).1.Numbered := by
  induction items generalizing a result with
  | nil => exact h
  | cons item items ih =>
    unfold RouteActivity.loop
    split
    · exact h
    · split
      · exact h
      · split
        · exact ih (h.tryMarker J _ _ _) _
        · exact h

theorem Numbered.step {a : RouteActivity F} (h : a.Numbered) (root : Option (Json.Fields N)) :
    (step J a root).Numbered := by
  unfold RouteActivity.step doInBackground
  split
  · exact h
  · dsimp only
    split_ifs
    · exact h
    · exact h.loop J _ _
    · exact h.loop J _ _

theorem numbered_run (requests : List (Option (Json.Fields N))) :
    (run (step J) init requests).Numbered :=
  invariant (fun _ root h => h.step J root) numbered_init requests

/-- Numbered markers have different identifiers as long as the counter has not come round. -/
theorem Numbered.nodup_iff {a : RouteActivity F} (h : a.Numbered) :
    a.identifiers.Nodup ↔ a.markers.length ≤ 4294967296 := by
  rw [h.identifiers]
  constructor
  · intro hnodup
    by_contra hmany
    have hinj := List.inj_on_of_nodup_map hnodup
    have hsame := @hinj 0 (List.mem_range.mpr (by omega)) 4294967296 (List.mem_range.mpr (by omega))
      (congrArg identifier (by unfold counter; omega))
    omega
  · intro hfew
    refine List.Nodup.map_on (fun m hm n hn heq => ?_) List.nodup_range
    rw [List.mem_range] at hm hn
    exact counter_inj (by omega) (by omega) (identifier_inj heq)

/-- **The markers are the points of the route.** A request adds a marker for each of the
points of its response, in order, with the second coordinate as the latitude, the first as
the longitude and the description as its title, and no others. Over all requests of an
activity the identifiers of the markers are different exactly if there are not more than
2^32 of them. -/
theorem markers_of_route :
    (∀ (a : RouteActivity F) (root : Json.Fields N) (features : List (String × Geometry N)),
      Features root features →
      (step J a (some root)).marker_items = a.marker_items ++ features.filterMap (marker J)) ∧
    ∀ requests : List (Option (Json.Fields N)),
      (run (step J) init requests).identifiers.Nodup ↔
        (run (step J) init requests).markers.length ≤ 4294967296 :=
  ⟨fun a _ _ h => marker_items_step J h a, fun requests => (numbered_run J requests).nodup_iff⟩

end

/-! ## Whole degrees -/

/-- The numbers with one decimal, which is 0. -/
def road_degrees : RoadText ℕ ℕ where
  toDoubleText := whole_degrees
  valueOf := whole_degrees.toString
  numberToString := Nat.repr
  doubleValue n := n
  parseDouble_valueOf := whole_degrees.parseDouble_toString
  parseDouble_array rest := by
    have hlist : ("[" ++ rest).toList = '[' :: rest.toList := by
      rw [String.toList_append]
      rfl
    change (if _ then _ else none) = none
    rw [hlist]
    refine if_neg ?_
    rintro ⟨hdrop, hall⟩
    rcases hlen : ('[' :: rest.toList).length - 2 with _ | n
    · rw [hlen, List.drop_zero] at hdrop
      exact absurd (List.cons.inj hdrop).1 (by decide)
    · rw [hlen, List.take_succ_cons, List.all_cons] at hall
      exact absurd (Bool.and_eq_true_iff.mp hall).1 (by decide)

/-- A `Point` at these coordinates. -/
def point_feature (description : String) (x y : ℕ) : Json ℕ :=
  .object [("geometry", .object [("type", .string "Point"),
      ("coordinates", .array [.number x, .number y])]),
    ("properties", .object [("description", .string description)])]

/-- A line between two points. -/
def line_feature (description : String) (x y x' y' : ℕ) : Json ℕ :=
  .object [("geometry", .object [("type", .string "LineString"),
      ("coordinates", .array [.array [.number x, .number y], .array [.number x', .number y']])]),
    ("properties", .object [("description", .string description)])]

theorem feature_point (description : String) (x y : ℕ) :
    Feature (point_feature description x y) (description, .point x y) :=
  ⟨_, _, _, rfl, rfl, rfl, rfl, rfl, [], rfl⟩

theorem feature_line (description : String) (x y x' y' : ℕ) :
    Feature (line_feature description x y x' y') (description, .nested) :=
  ⟨_, _, _, rfl, rfl, rfl, rfl, ⟨_, rfl⟩, _, _, [], rfl⟩

/-- A route of two points and the line between them. -/
def short_route : Json.Fields ℕ :=
  [("features", .array [point_feature "start" 127 37, line_feature "walk" 127 37 128 38,
    point_feature "end" 128 38])]

/-- Two markers. -/
theorem markers_of_short_route :
    (step road_degrees init (some short_route)).marker_items
      = [⟨⟨37, 127⟩, "start"⟩, ⟨⟨38, 128⟩, "end"⟩] := by
  have hfeatures : Features short_route
      [("start", .point 127 37), ("walk", .nested), ("end", .point 128 38)] :=
    ⟨_, rfl, .cons (feature_point ..) (.cons (feature_line ..) (.cons (feature_point ..) .nil))⟩
  exact (markers_of_route road_degrees).1 init short_route _ hfeatures

/-- A route of one point. -/
def one_point : Json.Fields ℕ := [("features", .array [point_feature "start" 127 37])]

theorem length_one_point (n : ℕ) :
    (run (step road_degrees) init (List.replicate n (some one_point))).markers.length = n := by
  induction n with
  | zero => rfl
  | succ n ih =>
    have hfeatures : Features one_point [("start", .point 127 37)] :=
      ⟨_, rfl, .cons (feature_point ..) .nil⟩
    have hadd := congrArg List.length (marker_items_step road_degrees hfeatures
      (run (step road_degrees) init (List.replicate n (some one_point))))
    rw [List.length_append] at hadd
    unfold marker_items at hadd
    rw [List.length_map, List.length_map, ih] at hadd
    rw [List.replicate_succ', run_concat, hadd]
    rfl

/-- After 2^32 markers their numbers begin again. -/
theorem identifier_again :
    ¬ (run (step road_degrees) init
      (List.replicate 4294967297 (some one_point))).identifiers.Nodup := by
  rw [(numbered_run ..).nodup_iff, length_one_point]
  omega

end RouteActivity

end SmartBike.App
