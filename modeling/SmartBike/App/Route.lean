/-
The route endpoints on their way through the activities.

`SearchLocationActivity` answers with an intent that carries a picked point as text,
from its result list, from the current position, or by passing on what
`SelectMapLocationActivity` has answered it. `MainActivity.onActivityResult` parses the
text into its `start_point` or `dest_point`, and `route.onClick` starts
`RouteActivity` with both points as text again, under four other names. There
`showRoute` reads them.

A hop is right when the reader of a name expects the type its writer has put there.
The first hops are (`picked`, `onActivityResult_of_pick`); the last one is not
(`showRoute_onClick`).
-/
import SmartBike.Lib.Run

set_option autoImplicit false

open Runs

namespace SmartBike.App

/-! ## Doubles, points and intents -/

/-- What the activities use of `java.lang.Double` on finite values. `parseDouble` is
`none` where it throws. -/
structure DoubleText (F : Type*) where
  toString : F → String
  parseDouble : String → Option F
  zero : F
  parseDouble_toString : ∀ x, parseDouble (toString x) = some x

structure TMapPoint (F : Type*) where
  latitude : F
  longitude : F
  deriving DecidableEq, Repr

/-- A value in a `Bundle`, by the overload of `putExtra` that has put it there. -/
inductive Extra (F : Type*) where
  -- a reference, `none` for `null`
  | string (value : Option String)
  | double (value : F)
  deriving DecidableEq, Repr

/-- An intent, by its extras, latest first. -/
structure Intent (F : Type*) where
  extras : List (String × Extra F)
  deriving DecidableEq, Repr

namespace Intent

variable {F : Type*}

def new : Intent F := ⟨[]⟩

def putExtra (intent : Intent F) (name : String) (value : Option String) : Intent F :=
  ⟨(name, .string value) :: intent.extras⟩

/-- `null` without the name, and when its value is not a `String`. -/
def getStringExtra (intent : Intent F) (name : String) : Option String :=
  match intent.extras.lookup name with
  | some (.string value) => value
  | _ => none

/-- `0.0` without the name, and when its value is not a `Double`. -/
def getDouble (J : DoubleText F) (intent : Intent F) (name : String) : F :=
  match intent.extras.lookup name with
  | some (.double value) => value
  | _ => J.zero

theorem lookup_putExtra (intent : Intent F) (name key : String) (value : Option String) :
    (intent.putExtra name value).extras.lookup key
      = if key = name then some (.string value) else intent.extras.lookup key := by
  unfold putExtra
  rw [List.lookup_cons]
  by_cases h : key = name
  · simp [h]
  · rw [if_neg h, beq_false_of_ne h]

@[simp] theorem getStringExtra_putExtra (intent : Intent F) (name key : String)
    (value : Option String) :
    (intent.putExtra name value).getStringExtra key
      = if key = name then value else intent.getStringExtra key := by
  unfold getStringExtra
  rw [lookup_putExtra]
  by_cases h : key = name
  · rw [if_pos h, if_pos h]
  · rw [if_neg h, if_neg h]

/-- A text is not a `Double`. -/
@[simp] theorem getDouble_putExtra (J : DoubleText F) (intent : Intent F) (name key : String)
    (value : Option String) :
    (intent.putExtra name value).getDouble J key
      = if key = name then J.zero else intent.getDouble J key := by
  unfold getDouble
  rw [lookup_putExtra]
  by_cases h : key = name
  · rw [if_pos h, if_pos h]
  · rw [if_neg h, if_neg h]

end Intent

/-! ## `SelectMapLocationActivity` and `SearchLocationActivity` -/

structure ListViewItem (F : Type*) where
  titleStr : String
  latStr : F
  lonStr : F
  deriving DecidableEq, Repr

/-- How a point is picked. -/
inductive Pick (F : Type*) where
  -- an entry of the result list
  | item (title : String) (point : TMapPoint F)
  -- the centre of the map, with its address once there is one
  | center (address : Option String) (center_p : TMapPoint F)
  -- the current position, for which there must be an address
  | current (address : String) (point : TMapPoint F)
  deriving DecidableEq, Repr

namespace Pick

variable {F : Type*}

/-- The point that was picked. -/
def point : Pick F → TMapPoint F
  | item _ point => point
  | center _ center_p => center_p
  | current _ point => point

end Pick

section Activities

variable {F : Type*} (J : DoubleText F)

/-- `adapter.addItem` with what line 225 gives it. -/
def addItem (title : String) (point : TMapPoint F) : ListViewItem F :=
  ⟨title, point.latitude, point.longitude⟩

/-- `SearchLocationActivity`, lines 244-259. -/
def onItemClick (item : ListViewItem F) : Intent F :=
  ((Intent.new.putExtra "input" (some item.titleStr)).putExtra
    "lat" (some (J.toString item.latStr))).putExtra
    "lon" (some (J.toString item.lonStr))

/-- `SearchLocationActivity`, lines 112-136. -/
def current_loc_onClick (address : String) (start_dot : TMapPoint F) : Intent F :=
  ((Intent.new.putExtra "input" (some address)).putExtra
    "lat" (some (J.toString start_dot.latitude))).putExtra
    "lon" (some (J.toString start_dot.longitude))

/-- `SelectMapLocationActivity`, lines 150-157. -/
def bt1_onClick (address : Option String) (center_p : TMapPoint F) : Intent F :=
  ((Intent.new.putExtra "input" address).putExtra
    "lat" (some (J.toString center_p.latitude))).putExtra
    "lon" (some (J.toString center_p.longitude))

/-- `SearchLocationActivity.onActivityResult`, whose only request has the code `0`. -/
def search_onActivityResult (data : Intent F) : Intent F :=
  ((Intent.new.putExtra "input" (data.getStringExtra "input")).putExtra
    "lat" (data.getStringExtra "lat")).putExtra
    "lon" (data.getStringExtra "lon")

/-- What `SearchLocationActivity` answers. -/
def Pick.answer : Pick F → Intent F
  | .item title point => onItemClick J (addItem title point)
  | .center address center_p => search_onActivityResult (bt1_onClick J address center_p)
  | .current address point => current_loc_onClick J address point

/-- **The first hops**: whichever way a point was picked, its coordinates arrive as
the texts of `lat` and `lon`. -/
theorem picked (pick : Pick F) :
    (pick.answer J).getStringExtra "lat" = some (J.toString pick.point.latitude) ∧
      (pick.answer J).getStringExtra "lon" = some (J.toString pick.point.longitude) := by
  cases pick with
  | item title point => simp [Pick.answer, onItemClick, addItem, Pick.point]
  | center address center_p =>
    simp [Pick.answer, search_onActivityResult, bt1_onClick, Pick.point]
  | current address point => simp [Pick.answer, current_loc_onClick, Pick.point]

/-! ## `MainActivity` -/

/-- The two request codes of `MainActivity`. -/
inductive Endpoint where
  | start
  | dest
  deriving DecidableEq, Repr

/-- The two points and the texts shown for them, `none` for `null`. -/
structure MainActivity (F : Type*) where
  start_point : Option (TMapPoint F)
  dest_point : Option (TMapPoint F)
  input_start : Option String
  input_dest : Option String
  deriving DecidableEq, Repr

namespace MainActivity

def init : MainActivity F := ⟨none, none, none, none⟩

def endpoint (m : MainActivity F) : Endpoint → Option (TMapPoint F)
  | .start => m.start_point
  | .dest => m.dest_point

/-- Lines 141-162; `none` where `parseDouble` throws. -/
def onActivityResult (m : MainActivity F) (requestCode : Endpoint) (data : Intent F) :
    Option (MainActivity F) := do
  let address := data.getStringExtra "input"
  let lat ← (data.getStringExtra "lat").bind J.parseDouble
  let lon ← (data.getStringExtra "lon").bind J.parseDouble
  match requestCode with
  | .start => some { m with input_start := address, start_point := some ⟨lat, lon⟩ }
  | .dest => some { m with input_dest := address, dest_point := some ⟨lat, lon⟩ }

/-- Lines 341-346; `none` where a point is missing. -/
def route_onClick (m : MainActivity F) : Option (Intent F) := do
  let start_point ← m.start_point
  let dest_point ← m.dest_point
  return (((Intent.new.putExtra
    "start_lat" (some (J.toString start_point.latitude))).putExtra
    "start_lon" (some (J.toString start_point.longitude))).putExtra
    "dest_lat" (some (J.toString dest_point.latitude))).putExtra
    "dest_lon" (some (J.toString dest_point.longitude))

/-- The activity over some picks; `none` once it has thrown. -/
def step (m : Option (MainActivity F)) (e : Endpoint × Pick F) : Option (MainActivity F) :=
  m.bind fun m => m.onActivityResult J e.1 (e.2.answer J)

/-- **The parsing hop**: the point picked for an endpoint becomes that endpoint, and the
other one stays. -/
theorem onActivityResult_of_pick (m : MainActivity F) (requestCode : Endpoint) (pick : Pick F) :
    ∃ m', m.onActivityResult J requestCode (pick.answer J) = some m' ∧
      ∀ e, m'.endpoint e = if e = requestCode then some pick.point else m.endpoint e := by
  obtain ⟨hlat, hlon⟩ := picked J pick
  unfold onActivityResult
  rw [hlat, hlon]
  simp only [Option.bind_eq_bind, Option.bind_some, J.parseDouble_toString]
  cases requestCode with
  | start => exact ⟨_, rfl, fun e => by cases e <;> rfl⟩
  | dest => exact ⟨_, rfl, fun e => by cases e <;> rfl⟩

/-- The point picked last for an endpoint. -/
def latest (e : Endpoint) (picks : List (Endpoint × Pick F)) : Option (TMapPoint F) :=
  ((picks.filter fun p => p.1 = e).getLast?).map fun p => p.2.point

theorem latest_concat (e : Endpoint) (picks : List (Endpoint × Pick F)) (p : Endpoint × Pick F) :
    latest e (picks ++ [p]) = if e = p.1 then some p.2.point else latest e picks := by
  unfold latest
  rw [List.filter_append]
  by_cases h : e = p.1
  · simp [h]
  · have h' : p.1 ≠ e := fun heq => h heq.symm
    simp [h, h']

/-- **The activity after some picks** has not thrown and holds, for each endpoint, the
point picked last. -/
theorem run_picks (picks : List (Endpoint × Pick F)) :
    ∃ m, run (step J) (some init) picks = some m ∧ ∀ e, m.endpoint e = latest e picks := by
  induction picks using List.reverseRecOn with
  | nil => exact ⟨init, rfl, fun e => by cases e <;> rfl⟩
  | append_singleton picks p ih =>
    obtain ⟨m, hm, hends⟩ := ih
    obtain ⟨m', hm', hends'⟩ := m.onActivityResult_of_pick J p.1 p.2
    refine ⟨m', ?_, fun e => ?_⟩
    · rw [run_concat, hm]
      exact hm'
    · rw [hends', latest_concat, hends]

end MainActivity

/-! ## `RouteActivity` -/

/-- The request of `Send_Login_Info`. -/
structure RequestRoad where
  startX : String
  startY : String
  endX : String
  endY : String
  reqCoordType : String
  resCoordType : String
  deriving DecidableEq, Repr

/-- What `showRoute` asks for: a path, and the road data. -/
structure Requests (F : Type*) where
  findPathData : TMapPoint F × TMapPoint F
  road : RequestRoad
  deriving DecidableEq, Repr

def Send_Login_Info (start_point dest_point : TMapPoint F) : RequestRoad where
  startX := J.toString start_point.longitude
  startY := J.toString start_point.latitude
  endX := J.toString dest_point.longitude
  endY := J.toString dest_point.latitude
  reqCoordType := "WGS84GEO"
  resCoordType := "WGS84GEO"

/-- Lines 176-205. -/
def showRoute (intent : Intent F) : Requests F :=
  let start_point : TMapPoint F := ⟨intent.getDouble J "start_lat", intent.getDouble J "start_lon"⟩
  let dest_point : TMapPoint F := ⟨intent.getDouble J "dest_lat", intent.getDouble J "dest_lon"⟩
  ⟨(start_point, dest_point), Send_Login_Info J start_point dest_point⟩

/-- Path and road data are requested between the two points. -/
def Requests.Between (r : Requests F) (start_point dest_point : TMapPoint F) : Prop :=
  r.findPathData = (start_point, dest_point) ∧ r.road = Send_Login_Info J start_point dest_point

/-- The point `getDouble` makes of names that hold no `Double`. -/
def origin : TMapPoint F := ⟨J.zero, J.zero⟩

/-- **The last hop**: `route.onClick` puts texts where `showRoute` looks for doubles,
so whatever the endpoints are, the requests are between the origin and itself. -/
theorem showRoute_onClick {m : MainActivity F} {intent : Intent F}
    (h : m.route_onClick J = some intent) :
    (showRoute J intent).Between J (origin J) (origin J) := by
  unfold MainActivity.route_onClick at h
  rcases hs : m.start_point with _ | start_point
  · simp [hs] at h
  · rcases hd : m.dest_point with _ | dest_point
    · simp [hs, hd] at h
    · simp only [hs, hd, Option.bind_eq_bind, Option.bind_some, Option.pure_def,
        Option.some.injEq] at h
      rw [← h]
      simp [showRoute, Requests.Between, origin]

/-- **The route that is shown.** After any picks, with `p` the start and `q` the
destination picked last, the route button starts `RouteActivity`, and its requests
are between `p` and `q` exactly when all four coordinates are `0.0`. -/
theorem route_between_iff (picks : List (Endpoint × Pick F)) (p q : TMapPoint F)
    (hp : MainActivity.latest .start picks = some p)
    (hq : MainActivity.latest .dest picks = some q) :
    ∃ m intent, run (MainActivity.step J) (some MainActivity.init) picks = some m ∧
      m.route_onClick J = some intent ∧
      ((showRoute J intent).Between J p q ↔ p = origin J ∧ q = origin J) := by
  obtain ⟨m, hm, hends⟩ := MainActivity.run_picks J picks
  have hs : m.start_point = some p := (hends .start).trans hp
  have hd : m.dest_point = some q := (hends .dest).trans hq
  obtain ⟨intent, hi⟩ : ∃ intent, m.route_onClick J = some intent := by
    simp [MainActivity.route_onClick, hs, hd]
  refine ⟨m, intent, hm, hi, ?_⟩
  have horigin := showRoute_onClick J hi
  constructor
  · rintro ⟨hpath, -⟩
    rw [horigin.1, Prod.mk.injEq] at hpath
    exact ⟨hpath.1.symm, hpath.2.symm⟩
  · rintro ⟨rfl, rfl⟩
    exact horigin

end Activities

/-! ## A route on whole degrees -/

/-- The doubles without a fractional part, as `Double` prints and reads them. -/
def whole_degrees : DoubleText ℕ where
  toString n := Nat.repr n ++ ".0"
  parseDouble s :=
    if s.toList.drop (s.toList.length - 2) = ['.', '0'] ∧
        (s.toList.take (s.toList.length - 2)).all Char.isDigit then
      some (Nat.ofDigitChars 10 (s.toList.take (s.toList.length - 2)) 0)
    else none
  zero := 0
  parseDouble_toString n := by
    have htext : (Nat.repr n ++ ".0").toList = Nat.toDigits 10 n ++ ['.', '0'] := by
      rw [String.toList_append, Nat.toList_repr]
      rfl
    have hlen : (Nat.toDigits 10 n ++ ['.', '0']).length - 2 = (Nat.toDigits 10 n).length := by
      rw [List.length_append]
      rfl
    have hdigits : (Nat.toDigits 10 n).all Char.isDigit = true := by
      rw [List.all_eq_true]
      exact fun c hc => Nat.isDigit_of_mem_toDigits (b := 10) (by omega) (by omega) hc
    rw [htext, hlen, List.drop_left, List.take_left, if_pos ⟨rfl, hdigits⟩,
      Nat.ofDigitChars_ten_toDigits]

/-- From 37 degrees north, 127 east, to 38 north, 128 east: the start from the result
list, the destination on the map. -/
def two_picks : List (Endpoint × Pick ℕ) :=
  [(.start, .item "home" ⟨37, 127⟩), (.dest, .center (some "away") ⟨38, 128⟩)]

/-- Both endpoints at the origin: these arrive. -/
theorem route_between_origin :
    ∃ m intent, run (MainActivity.step whole_degrees) (some MainActivity.init)
        [(.start, .item "a" ⟨0, 0⟩), (.dest, .center none ⟨0, 0⟩)] = some m ∧
      m.route_onClick whole_degrees = some intent ∧
      (showRoute whole_degrees intent).Between whole_degrees ⟨0, 0⟩ ⟨0, 0⟩ := by
  obtain ⟨m, intent, hm, hi, hiff⟩ := route_between_iff whole_degrees
    [(.start, .item "a" ⟨0, 0⟩), (.dest, .center none ⟨0, 0⟩)] ⟨0, 0⟩ ⟨0, 0⟩ rfl rfl
  exact ⟨m, intent, hm, hi, hiff.mpr ⟨rfl, rfl⟩⟩

/-- The two picks become the points of `MainActivity`; what `RouteActivity` asks for is
not between them. -/
theorem route_lost :
    ∃ m intent, run (MainActivity.step whole_degrees) (some MainActivity.init) two_picks = some m ∧
      m.start_point = some ⟨37, 127⟩ ∧ m.dest_point = some ⟨38, 128⟩ ∧
      m.route_onClick whole_degrees = some intent ∧
      ¬ (showRoute whole_degrees intent).Between whole_degrees ⟨37, 127⟩ ⟨38, 128⟩ := by
  obtain ⟨m, hm, hends⟩ := MainActivity.run_picks whole_degrees two_picks
  have hs : m.start_point = some ⟨37, 127⟩ := hends .start
  have hd : m.dest_point = some ⟨38, 128⟩ := hends .dest
  obtain ⟨intent, hi⟩ : ∃ intent, m.route_onClick whole_degrees = some intent := by
    simp [MainActivity.route_onClick, hs, hd]
  refine ⟨m, intent, hm, hs, hd, hi, ?_⟩
  rintro ⟨hpath, -⟩
  rw [(showRoute_onClick whole_degrees hi).1] at hpath
  simp [origin, whole_degrees] at hpath

end SmartBike.App
