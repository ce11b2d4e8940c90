/-
The address that goes with picked coordinates: `SelectMapLocationActivity.java`,
`current_loc.onClick` of `SearchLocationActivity.java`, and `GpsInfo.java`.

Both activities ask for the address of a point and go on; the answer comes to a callback,
on a thread of its own, which stores it in the field `address`. What an activity returns
are the coordinates it has now and what the field holds now, and the field holds the last
answer of all (`address_run`), whichever request it belongs to. `GpsInfo` says that there
is a location when a provider is switched on, and has the coordinates `0.0` until there
is one.
-/
import SmartBike.App.Route

set_option autoImplicit false

open Runs

namespace SmartBike.App

/-! ## Requests for addresses -/

/-- The requests of `convertGpsToAddress` without an answer, oldest first, by their
coordinates, and the field. -/
structure Geocoding (F : Type*) where
  asked : List (TMapPoint F)
  address : Option String
  deriving DecidableEq, Repr

inductive GeoMove (F : Type*) where
  | ask (point : TMapPoint F)
  -- the callback of the request at index `i` is called, perhaps with `null`
  | answer (i : ℕ) (s : Option String)
  deriving DecidableEq, Repr

namespace Geocoding

variable {F : Type*}

def init : Geocoding F := ⟨[], none⟩

def step (g : Geocoding F) : GeoMove F → Geocoding F
  | .ask point => { g with asked := g.asked ++ [point] }
  | .answer i s => if i < g.asked.length then ⟨g.asked.eraseIdx i, s⟩ else g

/-- An answer, with the coordinates it is for. -/
def answer (g : Geocoding F) : GeoMove F → List (TMapPoint F × Option String)
  | .ask _ => []
  | .answer i s => g.asked[i]?.toList.map fun point => (point, s)

/-- The answers of a run, oldest first. -/
def answers (moves : List (GeoMove F)) : List (TMapPoint F × Option String) :=
  emitted step answer init moves

/-- A move without an answer leaves the field as it is. -/
theorem address_step (g : Geocoding F) (m : GeoMove F) :
    (g.step m).address = ((g.answer m).getLast?.map Prod.snd).getD g.address := by
  cases m with
  | ask point => rfl
  | answer i s =>
    unfold step answer
    dsimp only
    rcases hfound : g.asked[i]? with _ | point
    · rw [if_neg (List.getElem?_eq_none_iff.mp hfound).not_gt]
      rfl
    · rw [if_pos (List.getElem?_eq_some_iff.mp hfound).1]
      rfl

/-- **The field holds the last answer of all.** -/
theorem address_run (moves : List (GeoMove F)) :
    (run step init moves).address = (answers moves).getLast?.bind Prod.snd := by
  induction moves using List.reverseRecOn with
  | nil => rfl
  | append_singleton moves m ih =>
    unfold answers at ih ⊢
    rw [run_concat, emitted_concat, address_step, ih, List.getLast?_append]
    rcases (answer (run step init moves) m).getLast? with _ | last
    · rfl
    · rfl

end Geocoding

section Returned

variable {F : Type*} (J : DoubleText F)

/-- A result has the coordinates of the point, and its address is an answer for exactly
these; `point` is `none` where the coordinates are those of no point. -/
def Agrees (answers : List (TMapPoint F × Option String)) (point : Option (TMapPoint F))
    (result : Intent F) : Prop :=
  ∃ p, point = some p ∧
    result.getStringExtra "lat" = some (J.toString p.latitude) ∧
    result.getStringExtra "lon" = some (J.toString p.longitude) ∧
    (p, result.getStringExtra "input") ∈ answers

/-- There is a point, and the last answer of all is, word for word, an answer for it. -/
def Answered (answers : List (TMapPoint F × Option String)) (point : Option (TMapPoint F)) :
    Prop :=
  ∃ p last, point = some p ∧ answers.getLast? = some last ∧ (p, last.2) ∈ answers

/-- A result with the coordinates of the point, if there is one, and the last answer. -/
theorem agrees_iff {answers : List (TMapPoint F × Option String)} {point : Option (TMapPoint F)}
    {result : Intent F}
    (hlat : ∀ p, point = some p → result.getStringExtra "lat" = some (J.toString p.latitude))
    (hlon : ∀ p, point = some p → result.getStringExtra "lon" = some (J.toString p.longitude))
    (hinput : result.getStringExtra "input" = answers.getLast?.bind Prod.snd) :
    Agrees J answers point result ↔ Answered answers point := by
  unfold Agrees Answered
  rw [hinput]
  constructor
  · rintro ⟨p, hp, -, -, hmem⟩
    rcases hlast : answers.getLast? with _ | last
    · rw [List.getLast?_eq_none_iff.mp hlast] at hmem
      simp at hmem
    · rw [hlast] at hmem
      exact ⟨p, last, hp, rfl, hmem⟩
  · rintro ⟨p, last, hp, hlast, hmem⟩
    refine ⟨p, hp, hlat p hp, hlon p hp, ?_⟩
    rw [hlast]
    exact hmem

end Returned

/-! ## `SelectMapLocationActivity` -/

/-- The centre of the map at the last touch, and the requests. -/
structure SelectMapLocation (F : Type*) where
  center_p : Option (TMapPoint F)
  geocoding : Geocoding F
  finished : Bool
  deriving DecidableEq, Repr

inductive SelectEvent (F : Type*) where
  | onTouch (centerPoint : TMapPoint F)
  | answer (i : ℕ) (s : Option String)
  -- a click on `bt1`
  | onClick
  deriving DecidableEq, Repr

namespace SelectMapLocation

variable {F : Type*} (J : DoubleText F)

def init : SelectMapLocation F := ⟨none, .init, false⟩

/-- `onClick` before any touch throws, which ends the activity too. -/
def step (t : SelectMapLocation F) : SelectEvent F → SelectMapLocation F
  | .onTouch centerPoint =>
    { t with center_p := some centerPoint, geocoding := t.geocoding.step (.ask centerPoint) }
  | .answer i s => { t with geocoding := t.geocoding.step (.answer i s) }
  | .onClick => { t with finished := true }

/-- What a click returns. -/
def returned (t : SelectMapLocation F) : SelectEvent F → Option (Intent F)
  | .onClick => if t.finished then none else t.center_p.map (bt1_onClick J t.geocoding.address)
  | _ => none

/-- The requests and answers of the activity. -/
def geocodings : Refinement (step (F := F)) (Geocoding.step (F := F)) where
  abs t := t.geocoding
  emit _
    | .onTouch centerPoint => [.ask centerPoint]
    | .answer i s => [.answer i s]
    | .onClick => []
  abs_step _ e := by cases e <;> rfl

/-- The answers of a run, oldest first. -/
def answers (events : List (SelectEvent F)) : List (TMapPoint F × Option String) :=
  Geocoding.answers (geocodings.trace init events)

theorem address_run (events : List (SelectEvent F)) :
    (run step init events).geocoding.address = (answers events).getLast?.bind Prod.snd := by
  have habs := geocodings.abs_run init events
  change (run step init events).geocoding = run Geocoding.step .init _ at habs
  rw [habs, Geocoding.address_run]
  rfl

/-- **What the map returns.** -/
theorem agrees_returned {events : List (SelectEvent F)} {e : SelectEvent F} {result : Intent F}
    (h : (run step init events).returned J e = some result) :
    Agrees J (answers events) (run step init events).center_p result ↔
      Answered (answers events) (run step init events).center_p := by
  have haddress := address_run events
  generalize run step init events = t at h haddress ⊢
  cases e with
  | onTouch centerPoint => simp [returned] at h
  | answer i s => simp [returned] at h
  | onClick =>
    unfold returned at h
    dsimp only at h
    split_ifs at h
    obtain ⟨p, hp, rfl⟩ := Option.map_eq_some_iff.mp h
    apply agrees_iff
    · intro p' hp'
      obtain rfl := Option.some.inj (hp.symm.trans hp')
      simp [bt1_onClick]
    · intro p' hp'
      obtain rfl := Option.some.inj (hp.symm.trans hp')
      simp [bt1_onClick]
    · rw [← haddress]
      simp [bt1_onClick]

end SelectMapLocation

/-! ## `GpsInfo` -/

/-- What the location service says: whether the providers are switched on, and what the
last known location of each is; `none` where asking for it throws, `some none` for `null`. -/
structure Providers (F : Type*) where
  isGPSEnabled : Bool
  isNetworkEnabled : Bool
  network : Option (Option (TMapPoint F))
  gps : Option (Option (TMapPoint F))
  deriving DecidableEq, Repr

structure GpsInfo (F : Type*) where
  isGetLocation : Bool
  location : Option (TMapPoint F)
  lat : F
  lon : F
  deriving DecidableEq, Repr

namespace GpsInfo

variable {F : Type*} (J : DoubleText F)

/-- The fields after a provider has been asked. -/
def found (J : DoubleText F) : Option (TMapPoint F) → GpsInfo F
  | none => ⟨true, none, J.zero, J.zero⟩
  | some location => ⟨true, some location, location.latitude, location.longitude⟩

/-- The constructor, with `getLocation`. An exception ends it with what there is. -/
def getLocation (p : Providers F) : GpsInfo F :=
  if !p.isGPSEnabled && !p.isNetworkEnabled then ⟨false, none, J.zero, J.zero⟩
  else if p.isNetworkEnabled then
    match p.network with
    | none => found J none
    | some none => if p.isGPSEnabled then found J p.gps.join else found J none
    | some (some location) => found J (some location)
  else found J p.gps.join

def getLatitude (g : GpsInfo F) : F :=
  match g.location with
  | some location => location.latitude
  | none => g.lat

def getLongitude (g : GpsInfo F) : F :=
  match g.location with
  | some location => location.longitude
  | none => g.lon

end GpsInfo

/-! ## `SearchLocationActivity` -/

/-- Where `current_loc.onClick` is. -/
inductive ClickPc where
  | idle
  -- `if (address != null)`
  | test
  -- `putExtra("input", address)` and the rest
  | put
  | finished
  deriving DecidableEq, Repr

structure SearchLocation (F : Type*) where
  start_dot : Option (GpsInfo F)
  start_lat : Option String
  start_lon : Option String
  geocoding : Geocoding F
  pc : ClickPc
  deriving DecidableEq, Repr

inductive CurrentLocEvent (F : Type*) where
  -- a click, up to the request
  | onClick (providers : Providers F)
  | test
  | put
  | answer (i : ℕ) (s : Option String)
  deriving DecidableEq, Repr

namespace SearchLocation

variable {F : Type*} (J : DoubleText F)

def init : SearchLocation F := ⟨none, none, none, .init, .idle⟩

section Literal

/- `!=` compares references, and it is up to the library whether `Double.toString` returns
the literal `"0.0"` itself for zero. -/
variable (literal : Bool)

/-- `s != "0.0"`. -/
def differs (s : String) : Bool := !(literal && s == "0.0")

/-- The click up to the request. -/
def onClick (t : SearchLocation F) (providers : Providers F) : SearchLocation F :=
  let start_dot := GpsInfo.getLocation J providers
  if start_dot.isGetLocation then
    let start_lat := J.toString start_dot.getLatitude
    let start_lon := J.toString start_dot.getLongitude
    { start_dot := some start_dot
      start_lat := some start_lat
      start_lon := some start_lon
      geocoding :=
        if differs literal start_lat || differs literal start_lon then
          t.geocoding.step (.ask ⟨start_dot.getLatitude, start_dot.getLongitude⟩)
        else t.geocoding
      pc := .test }
  else { t with start_dot := some start_dot }

def step (t : SearchLocation F) : CurrentLocEvent F → SearchLocation F
  | .onClick providers => if t.pc = .idle then t.onClick J literal providers else t
  | .test =>
    if t.pc = .test then { t with pc := if t.geocoding.address = none then .idle else .put } else t
  | .put => if t.pc = .put then { t with pc := .finished } else t
  | .answer i s => { t with geocoding := t.geocoding.step (.answer i s) }

/-- What the last part of a click returns. -/
def returned (t : SearchLocation F) : CurrentLocEvent F → Option (Intent F)
  | .put =>
    if t.pc = .put then
      some (((Intent.new.putExtra "input" t.geocoding.address).putExtra
        "lat" t.start_lat).putExtra
        "lon" t.start_lon)
    else none
  | _ => none

/-- The location fix of the click. -/
def fix (t : SearchLocation F) : Option (TMapPoint F) := t.start_dot.bind GpsInfo.location

/-- The requests and answers of the activity. -/
def geocodings : Refinement (step J literal) (Geocoding.step (F := F)) where
  abs t := t.geocoding
  emit t
    | .onClick providers =>
      if t.pc = .idle ∧ (GpsInfo.getLocation J providers).isGetLocation = true ∧
          (differs literal (J.toString (GpsInfo.getLocation J providers).getLatitude) ||
            differs literal (J.toString (GpsInfo.getLocation J providers).getLongitude)) = true then
        [.ask ⟨(GpsInfo.getLocation J providers).getLatitude,
          (GpsInfo.getLocation J providers).getLongitude⟩]
      else []
    | .answer i s => [.answer i s]
    | _ => []
  abs_step t e := by
    cases e with
    | onClick providers =>
      unfold step onClick
      dsimp only
      split_ifs <;> simp_all
    | test =>
      unfold step
      dsimp only
      split_ifs <;> rfl
    | put =>
      unfold step
      dsimp only
      split_ifs <;> rfl
    | answer i s => rfl

/-- The answers of a run, oldest first. -/
def answers (events : List (CurrentLocEvent F)) : List (TMapPoint F × Option String) :=
  Geocoding.answers ((geocodings J literal).trace init events)

theorem address_run (events : List (CurrentLocEvent F)) :
    (run (step J literal) init events).geocoding.address
      = (answers J literal events).getLast?.bind Prod.snd := by
  have habs := (geocodings J literal).abs_run init events
  change (run (step J literal) init events).geocoding = run Geocoding.step .init _ at habs
  rw [habs, Geocoding.address_run]
  rfl

/-- While a click has still to return, the texts are those of its fix, if it has one. -/
def Located (t : SearchLocation F) : Prop :=
  t.pc = .test ∨ t.pc = .put → ∀ p, t.fix = some p →
    t.start_lat = some (J.toString p.latitude) ∧ t.start_lon = some (J.toString p.longitude)

theorem located_onClick (t : SearchLocation F) (hpc : t.pc = .idle) (providers : Providers F) :
    (t.onClick J literal providers).Located J := by
  unfold onClick
  dsimp only
  by_cases hget : (GpsInfo.getLocation J providers).isGetLocation = true
  · rw [if_pos hget]
    rintro - p hp
    have hlocation : (GpsInfo.getLocation J providers).location = some p := hp
    simp only [GpsInfo.getLatitude, GpsInfo.getLongitude, hlocation, and_self]
  · rw [if_neg hget]
    rintro (htest | hput)
    · exact absurd (hpc.symm.trans htest) (by simp)
    · exact absurd (hpc.symm.trans hput) (by simp)

theorem located_step (t : SearchLocation F) (e : CurrentLocEvent F) (h : t.Located J) :
    (t.step J literal e).Located J := by
  cases e with
  | onClick providers =>
    unfold step
    dsimp only
    split_ifs with hpc
    · exact located_onClick J literal t hpc providers
    · exact h
  | test =>
    unfold step
    dsimp only
    split_ifs with hpc
    · exact fun _ => h (Or.inl hpc)
    · exact fun _ => h (Or.inl hpc)
    · exact h
  | put =>
    unfold step
    dsimp only
    split_ifs with hpc
    · exact fun _ => h (Or.inr hpc)
    · exact h
  | answer i s => exact h

theorem located_run (events : List (CurrentLocEvent F)) :
    (run (step J literal) init events).Located J :=
  invariant (located_step J literal) (fun h => by simp [init] at h) events

/-- **What a click on the current position returns.** -/
theorem agrees_returned {events : List (CurrentLocEvent F)} {e : CurrentLocEvent F}
    {result : Intent F} (h : (run (step J literal) init events).returned e = some result) :
    Agrees J (answers J literal events) (run (step J literal) init events).fix result ↔
      Answered (answers J literal events) (run (step J literal) init events).fix := by
  have haddress := address_run J literal events
  have hlocated := located_run J literal events
  generalize run (step J literal) init events = t at h haddress hlocated ⊢
  cases e with
  | onClick providers => simp [returned] at h
  | test => simp [returned] at h
  | answer i s => simp [returned] at h
  | put =>
    unfold returned at h
    dsimp only at h
    split_ifs at h with hpc
    obtain rfl := Option.some.inj h
    apply agrees_iff
    · intro p hp
      simpa using (hlocated (Or.inr hpc) p hp).1
    · intro p hp
      simpa using (hlocated (Or.inr hpc) p hp).2
    · rw [← haddress]
      simp

end Literal

end SearchLocation

/-! ## What is returned -/

/-- **Address and coordinates agree**, in every run of the two activities: every result has
the coordinates of a point (the centre of the map, or the location fix of the click) and
an answer for exactly these as its address, exactly if at every return there is such a
point and the last answer of all is, word for word, an answer for it. -/
theorem address_iff {F : Type*} (J : DoubleText F) (literal : Bool) :
    (∀ events : List (SelectEvent F),
      (∀ pre e post result, events = pre ++ e :: post →
          (run SelectMapLocation.step .init pre).returned J e = some result →
          Agrees J (SelectMapLocation.answers pre)
            (run SelectMapLocation.step .init pre).center_p result) ↔
        ∀ pre e post result, events = pre ++ e :: post →
          (run SelectMapLocation.step .init pre).returned J e = some result →
          Answered (SelectMapLocation.answers pre)
            (run SelectMapLocation.step .init pre).center_p) ∧
    (∀ events : List (CurrentLocEvent F),
      (∀ pre e post result, events = pre ++ e :: post →
          (run (SearchLocation.step J literal) .init pre).returned e = some result →
          Agrees J (SearchLocation.answers J literal pre)
            (run (SearchLocation.step J literal) .init pre).fix result) ↔
        ∀ pre e post result, events = pre ++ e :: post →
          (run (SearchLocation.step J literal) .init pre).returned e = some result →
          Answered (SearchLocation.answers J literal pre)
            (run (SearchLocation.step J literal) .init pre).fix) := by
  refine ⟨fun events => ?_, fun events => ?_⟩
  · constructor
    · intro h pre e post result hevents hreturned
      exact (SelectMapLocation.agrees_returned J hreturned).mp (h pre e post result hevents hreturned)
    · intro h pre e post result hevents hreturned
      exact (SelectMapLocation.agrees_returned J hreturned).mpr (h pre e post result hevents hreturned)
  · constructor
    · intro h pre e post result hevents hreturned
      exact (SearchLocation.agrees_returned J literal hreturned).mp
        (h pre e post result hevents hreturned)
    · intro h pre e post result hevents hreturned
      exact (SearchLocation.agrees_returned J literal hreturned).mpr
        (h pre e post result hevents hreturned)

/-! ## Results that do not agree -/

/-- The map is touched, the answer comes, and the map is touched elsewhere. -/
def touched_twice : List (SelectEvent ℕ) :=
  [.onTouch ⟨37, 126⟩, .answer 0 (some "Namsan"), .onTouch ⟨38, 127⟩]

/-- A provider is switched on and has no location yet; the address of `0.0`, `0.0` comes. -/
def no_fix : List (CurrentLocEvent ℕ) :=
  [.onClick ⟨false, true, some none, none⟩, .answer 0 (some "Gulf of Guinea"), .test]

/-- The map returns the address of the first point with the coordinates of the second; the
current position is returned as `0.0`, `0.0`. -/
theorem address_of_other_point :
    (∃ result, (run SelectMapLocation.step .init touched_twice).returned whole_degrees .onClick
        = some result ∧ result.getStringExtra "lat" = some "38.0" ∧
      ¬ Agrees whole_degrees (SelectMapLocation.answers touched_twice)
        (run SelectMapLocation.step .init touched_twice).center_p result) ∧
    ∃ result, (run (SearchLocation.step whole_degrees false) .init no_fix).returned .put
        = some result ∧ result.getStringExtra "lat" = some "0.0" ∧
      ¬ Agrees whole_degrees (SearchLocation.answers whole_degrees false no_fix)
        (run (SearchLocation.step whole_degrees false) .init no_fix).fix result := by
  constructor
  · refine ⟨_, rfl, by decide, ?_⟩
    rw [SelectMapLocation.agrees_returned whole_degrees (e := .onClick) rfl]
    rintro ⟨p, last, hp, hlast, hmem⟩
    have hanswers : SelectMapLocation.answers touched_twice = [(⟨37, 126⟩, some "Namsan")] := rfl
    obtain rfl : (⟨38, 127⟩ : TMapPoint ℕ) = p := Option.some.inj hp
    rw [hanswers, List.mem_singleton] at hmem
    exact absurd (congrArg Prod.fst hmem) (by simp)
  · refine ⟨_, rfl, by decide, ?_⟩
    rw [SearchLocation.agrees_returned whole_degrees false (e := .put) rfl]
    rintro ⟨p, last, hp, -, -⟩
    have hfix : (run (SearchLocation.step whole_degrees false) .init no_fix).fix = none := rfl
    rw [hfix] at hp
    exact absurd hp (by simp)

end SmartBike.App
