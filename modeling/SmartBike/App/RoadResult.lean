/-
What `RequestRoad.doInBackground` of `RouteActivity.java` returns.

The result is `"TRUE"` if `result`, the text of the geometry that was read last, is `"1"`. A
geometry that the loop goes on from is an object, whose text begins with a brace. So the result
is `"FALSE"` for every response that is read to its end, and `"TRUE"` only for one whose reading
ends with an exception, at a geometry that is no object but has the text `"1"`
(`returns_true_iff`).
-/
import SmartBike.App.Markers

set_option autoImplicit false

namespace SmartBike.App

namespace RouteActivity

variable {N F : Type*} (J : RoadText N F)

/-- A feature that is read without an exception. -/
def ReadsThrough (item : Json N) : Prop :=
  ∃ JObject : Json.Fields N, item = .object JObject ∧ JObject.getString J.toNumerals "geometry" ≠ none ∧
    JObject.getString J.toNumerals "properties" ≠ none ∧ coordinates J JObject ≠ none

/-- A feature with a geometry that has the text `"1"`. -/
def GeometryOne (item : Json N) : Prop :=
  ∃ (JObject : Json.Fields N) (value : Json N), item = .object JObject ∧ JObject.lookup "geometry" = some value ∧
    Json.text J.toNumerals value = "1"

/-- The text of an object begins with its brace. -/
theorem text_object_ne_one (fields : Json.Fields N) :
    Json.text J.toNumerals (.object fields) ≠ "1" := by
  intro h
  have htext : Json.text J.toNumerals (.object fields)
      = "\x7b" ++ (",".intercalate (Json.writeFields J.toNumerals fields) ++ "\x7d") := by
    unfold Json.text Json.write
    rfl
  have hchars := congrArg String.toList (htext.symm.trans h)
  rw [String.toList_append] at hchars
  exact absurd (List.cons.inj hchars).1 (by decide)

/-- What a feature is read for has an object as its geometry. -/
theorem geometry_of_coordinates {JObject : Json.Fields N} (h : coordinates J JObject ≠ none) :
    ∃ geometry, JObject.lookup "geometry" = some (.object geometry) := by
  obtain ⟨read, hread⟩ := Option.ne_none_iff_exists'.mp h
  simp only [coordinates, Option.bind_eq_some_iff] at hread
  obtain ⟨-, -, -, -, geometry, hgeometry, -⟩ := hread
  obtain ⟨value, hvalue, hobject⟩ := Option.bind_eq_some_iff.mp hgeometry
  cases value with
  | object fields =>
    exact ⟨fields, hvalue⟩
  | null | bool | number | string | array => exact absurd hobject (by simp [Json.asObject])

theorem not_geometryOne_of_readsThrough {item : Json N} (h : ReadsThrough J item) :
    ¬ GeometryOne J item := by
  rintro ⟨JObject, value, rfl, hvalue, hone⟩
  obtain ⟨JObject', hobject, -, -, hread⟩ := h
  obtain rfl : JObject = JObject' := by simpa using hobject
  obtain ⟨geometry, hgeometry⟩ := geometry_of_coordinates J hread
  obtain rfl : value = .object geometry := Option.some.inj (hvalue.symm.trans hgeometry)
  exact text_object_ne_one J geometry hone

/-- **The loop**, from a `result` that is not `"1"`: it ends with `"1"` exactly at the first feature
that it does not read through, if its geometry has that text. -/
theorem loop_result_iff (a : RouteActivity F) (result : String) (hresult : result ≠ "1")
    (items : Json.Items N) :
    (loop J a result items).2 = "1" ↔
      ∃ pre item post, items = pre ++ item :: post ∧ (∀ i ∈ pre, ReadsThrough J i) ∧
        GeometryOne J item := by
  induction items generalizing a result with
  | nil => simp [loop, hresult]
  | cons item items ih =>
    -- whether this feature is the one, or a later one
    have hsplit : (∃ pre item' post, item :: items = pre ++ item' :: post ∧
        (∀ i ∈ pre, ReadsThrough J i) ∧ GeometryOne J item') ↔
          GeometryOne J item ∨ ReadsThrough J item ∧ ∃ pre item' post,
            items = pre ++ item' :: post ∧ (∀ i ∈ pre, ReadsThrough J i) ∧ GeometryOne J item' := by
      constructor
      · rintro ⟨pre, item', post, hitems, hpre, hone⟩
        cases pre with
        | nil =>
          obtain ⟨rfl, -⟩ := List.cons.inj hitems
          exact Or.inl hone
        | cons first pre =>
          obtain ⟨rfl, hrest⟩ := List.cons.inj hitems
          obtain ⟨hfirst, hpre⟩ := List.forall_mem_cons.mp hpre
          exact Or.inr ⟨hfirst, pre, item', post, hrest, hpre, hone⟩
      · rintro (hone | ⟨hitem, pre, item', post, rfl, hpre, hone⟩)
        · exact ⟨[], item, items, rfl, by simp, hone⟩
        · exact ⟨item :: pre, item', post, rfl, List.forall_mem_cons.mpr ⟨hitem, hpre⟩, hone⟩
    rw [hsplit]
    cases item with
    | null | bool | number | string | array =>
      refine iff_of_false (by simpa [loop, Json.asObject] using hresult) ?_
      rintro (⟨_, _, hobject, -⟩ | ⟨⟨_, hobject, -⟩, -⟩)
      · simp at hobject
      · simp at hobject
    | object JObject =>
      rw [loop]
      simp only [Json.asObject_object]
      cases hgeometry : JObject.lookup "geometry" with
      | none =>
        have hnone : Json.Fields.getString J.toNumerals JObject "geometry" = none := by
          rw [Json.Fields.getString, hgeometry, Option.map_none]
        rw [hnone]
        refine iff_of_false hresult ?_
        rintro (⟨_, value, hobject, hvalue, -⟩ | ⟨⟨_, hobject, hsome, -⟩, -⟩)
        · obtain rfl := (Json.object.inj hobject).symm
          rw [hgeometry] at hvalue
          simp at hvalue
        · obtain rfl := (Json.object.inj hobject).symm
          exact hsome hnone
      | some value =>
        have htext := Json.Fields.getString_of_lookup J.toNumerals hgeometry
        have hone : GeometryOne J (.object JObject) ↔ Json.text J.toNumerals value = "1" := by
          constructor
          · rintro ⟨JObject', value', hobject, hvalue, hone⟩
            obtain rfl := Json.object.inj hobject
            obtain rfl := Option.some.inj (hgeometry.symm.trans hvalue)
            exact hone
          · exact fun h => ⟨JObject, value, rfl, hgeometry, h⟩
        rw [htext]
        by_cases hthrough : ReadsThrough J (.object JObject)
        · have hnot := not_geometryOne_of_readsThrough J hthrough
          obtain ⟨JObject', hobject, -, hproperties, hread⟩ := hthrough
          obtain rfl := Json.object.inj hobject
          obtain ⟨properties, hproperties'⟩ := Option.ne_none_iff_exists'.mp hproperties
          obtain ⟨⟨proo, prox, proy⟩, hread'⟩ := Option.ne_none_iff_exists'.mp hread
          simp only [hproperties', hread']
          rw [ih _ _ fun h => hnot (hone.mpr h), or_iff_right hnot]
          have hthrough' : ReadsThrough J (.object JObject) :=
            ⟨JObject, rfl, by simp [htext], hproperties, hread⟩
          exact (and_iff_right hthrough').symm
        · dsimp only
          rw [hone, or_iff_left fun h => hthrough h.1]
          split
          · rename_i hproperties hread
            exact absurd ⟨JObject, rfl, by simp [htext], by simp [hproperties], by simp [hread]⟩
              hthrough
          · rfl

/-- **What is returned.** For every response, `doInBackground` returns `"TRUE"` exactly if there is
a feature up to which all are read without an exception and whose geometry, a text or a number,
is `"1"`. -/
theorem returns_true_iff (a : RouteActivity F) (root : Option (Json.Fields N)) :
    (doInBackground J a root).2 = "TRUE" ↔
      ∃ countriesArray, (root.bind fun root => root.getJSONArray "features") = some countriesArray ∧
        ∃ pre item post, countriesArray = pre ++ item :: post ∧ (∀ i ∈ pre, ReadsThrough J i) ∧
          GeometryOne J item := by
  unfold doInBackground
  cases (root.bind fun root => root.getJSONArray "features") with
  | none => simp
  | some countriesArray =>
    simp only [Option.some.injEq, exists_eq_left']
    by_cases hlen : countriesArray.length < 1
    · obtain rfl := List.eq_nil_of_length_eq_zero (Nat.lt_one_iff.mp hlen)
      rw [if_pos hlen]
      simp
    · rw [if_neg hlen, ← loop_result_iff J a "" (by decide)]
      by_cases hone : (loop J a "" countriesArray).2 = "1"
      · simp [hone]
      · simp [hone]

end RouteActivity

end SmartBike.App
