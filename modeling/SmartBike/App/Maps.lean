/-
The map: `showmap.onClick` and `RetrieveRequest.run` of `FirstActivity.java`, and
`onMapReady` of `MapsActivity1.java`.

A click on `showmap` starts a thread that fetches `parking_location` into the static field
`location`, and starts the activity with the map at once. The map is drawn from whatever
the field holds when `onMapReady` is called: nothing orders that call after the thread's
answer, the field keeps what an earlier click has fetched, and not every content is the
number of a parking lot.

`answers` are the contents that the threads of a run have stored, in order, each with its
click. The last of them is what `onMapReady` reads (`location_eq`); `map_iff` says for
which answers every map is right.
-/
import Mathlib.Data.List.Nodup
import Mathlib.Data.Rat.Defs
import SmartBike.Gateway.Tas
import SmartBike.Lib.Run
import SmartBike.Lib.Utf16

set_option autoImplicit false

open Runs Utf16

namespace SmartBike.App

open Gateway (Text)

/-! ## Strings of Java

Their indices count UTF-16 units. -/

/-- `s.indexOf(t)`. -/
def indexOf (s t : Text) : ℤ :=
  match (encode s).tails.findIdx? fun rest => (encode t).isPrefixOf rest with
  | some i => i
  | none => -1

/-- `s.substring(begin, end)`; `none` where it throws. -/
def substring (s : Text) (first last : ℤ) : Option Text :=
  if 0 ≤ first ∧ first ≤ last ∧ last ≤ (encode s).length then
    some (decode (((encode s).take last.toNat).drop first.toNat))
  else none

/-- The zeros of the scripts that have decimal digits. -/
def zeros : List ℕ :=
  [0x30, 0x660, 0x6f0, 0x7c0, 0x966, 0x9e6, 0xa66, 0xae6, 0xb66, 0xbe6, 0xc66, 0xce6, 0xd66,
    0xde6, 0xe50, 0xed0, 0xf20, 0x1040, 0x1090, 0x17e0, 0x1810, 0x1946, 0x19d0, 0x1a80, 0x1a90,
    0x1b50, 0x1bb0, 0x1c40, 0x1c50, 0xa620, 0xa8d0, 0xa900, 0xa9d0, 0xa9f0, 0xaa50, 0xabf0,
    0xff10]

/-- `Character.digit(c, 10)`. -/
def digit (c : Char) : Option ℕ :=
  (zeros.find? fun d => d ≤ c.toNat ∧ c.toNat < d + 10).map fun d => c.toNat - d

/-- The number `n` with some more digits. -/
def digits (n : ℕ) : Text → Option ℕ
  | [] => some n
  | c :: t => (digit c).bind fun d => digits (10 * n + d) t

def unsigned (t : Text) : Option ℕ := if t = [] then none else digits 0 t

/-- `Integer.parseInt(s)`; `none` where it throws. -/
def parseInt (s : Text) : Option ℤ :=
  let value : Option ℤ :=
    match s with
    | '-' :: t => (unsigned t).map fun n => -Int.ofNat n
    | '+' :: t => (unsigned t).map Int.ofNat
    | t => (unsigned t).map Int.ofNat
  value.filter fun n => -2147483648 ≤ n ∧ n ≤ 2147483647

/-! ## `onMapReady` -/

structure LatLng where
  latitude : ℚ
  longitude : ℚ
  deriving DecidableEq, Repr

/-- The array `bicycle`; `none` for an entry that is not assigned. -/
def bicycle : List (Option LatLng) :=
  [some ⟨37.561459, 126.995650⟩, some ⟨37.558364, 126.998153⟩, some ⟨37.557253, 126.999662⟩,
    some ⟨37.560999, 126.998740⟩] ++ List.replicate 6 none

/-- The four parking lots, in the order of `bicycle`: the number that names one, and the
title of its marker. -/
def lots : List (ℤ × String) :=
  [(39, "충무로역 1번출구"), (234, "동국대학교 신공학관"), (2, "동국대학교 상록원"), (3, "제일병원앞")]

/-- A marker; one with the icon in `HUE_AZURE` is highlighted. -/
structure Marker where
  position : Option LatLng
  title : String
  highlighted : Bool
  deriving DecidableEq, Repr

/-- What the map shows. -/
structure Shown where
  markers : List Marker
  camera : LatLng
  deriving DecidableEq, Repr

def markers (check_location : ℤ) : List Marker :=
  lots.zipIdx.map fun ⟨⟨number, title⟩, k⟩ =>
    ⟨bicycle[k]?.join, title, check_location = number⟩

/-- The index `check`, which the lots set one after the other. -/
def check (check_location : ℤ) : ℕ :=
  lots.zipIdx.foldl (fun check ⟨⟨number, _⟩, k⟩ => if check_location = number then k else check) 4

/-- `onMapReady`, with what the static field holds; `none` for an exception, of `parseInt`
or of `newLatLngZoom` for an entry that is not assigned. -/
def onMapReady (location : Option Text) : Option Shown := do
  let check_location ← location >>= parseInt
  let camera ← bicycle[check check_location]?.join
  return ⟨markers check_location, camera⟩

/-- The lot with this number. -/
def lot (n : ℤ) : Option ℕ := lots.findIdx? fun l => l.1 = n

/-- The lot that a content names. -/
def named (con : Text) : Option ℕ := (parseInt con).bind lot

/-! ## The activities -/

/-- The body of `getResponseBody`; `none` where it throws. -/
def getResponseBody (msg : Text) : Option Text :=
  let start := indexOf msg ['<', 'c', 'o', 'n', '>']
  let finish := indexOf msg ['<', '/', 'c', 'o', 'n', '>']
  substring msg (start + 5) finish

/-- The static field, and for each click in order whether its thread is still running and
whether `onMapReady` of its map is still to come. An exception in `onMapReady` ends the
app. -/
structure Maps where
  location : Option Text
  running : List Bool
  waiting : List Bool
  crashed : Bool
  deriving DecidableEq, Repr

/-- A click on `showmap`; the end of the thread of the `i`-th click, with the body it has
read or `none` if that failed; the call of `onMapReady` for the `i`-th click. -/
inductive MapEvent where
  | click
  | response (i : ℕ) (msg : Option Text)
  | mapReady (i : ℕ)
  deriving DecidableEq, Repr

namespace Maps

def init : Maps := ⟨none, [], [], false⟩

/-- The thread of the `i`-th click can end. -/
def Running (t : Maps) (i : ℕ) : Prop := t.crashed = false ∧ t.running[i]? = some true

/-- `onMapReady` can be called for the `i`-th click. -/
def Due (t : Maps) (i : ℕ) : Prop := t.crashed = false ∧ t.waiting[i]? = some true

instance (t : Maps) (i : ℕ) : Decidable (t.Running i) := inferInstanceAs (Decidable (_ ∧ _))

instance (t : Maps) (i : ℕ) : Decidable (t.Due i) := inferInstanceAs (Decidable (_ ∧ _))

/-- What the end of a thread stores, with its click. -/
def answer (t : Maps) : MapEvent → List (ℕ × Text)
  | .response i msg =>
    if t.Running i then ((msg.bind getResponseBody).map fun con => (i, con)).toList else []
  | _ => []

/-- One event; an event that is not due does nothing. -/
def step (t : Maps) : MapEvent → Maps
  | .click =>
    if t.crashed then t
    else { t with running := t.running ++ [true], waiting := t.waiting ++ [true] }
  | .response i msg =>
    if t.Running i then
      { t with
        location := (msg.bind getResponseBody).or t.location,
        running := t.running.set i false }
    else t
  | .mapReady i =>
    if t.Due i then
      { t with waiting := t.waiting.set i false, crashed := (onMapReady t.location).isNone }
    else t

/-- The contents stored in a run, oldest first, each with its click. -/
def answers (events : List MapEvent) : List (ℕ × Text) := emitted step answer init events

/-- The map drawn for the `i`-th click after `events`: it is drawn, the camera is at an
assigned entry, and a lot is highlighted only if the click's own answer names it. -/
def Right (events : List MapEvent) (i : ℕ) : Prop :=
  ∃ shown, onMapReady (run step init events).location = some shown ∧
    some shown.camera ∈ bicycle ∧
    ∀ k marker, shown.markers[k]? = some marker → marker.highlighted = true →
      ∃ con, (i, con) ∈ answers events ∧ named con = some k

/-- The last answer of all names a lot, and the click has an answer of its own that names
the same one. -/
def Agreed (events : List MapEvent) (i : ℕ) : Prop :=
  ∃ k last con, (answers events).getLast? = some last ∧ named last.2 = some k ∧
    (i, con) ∈ answers events ∧ named con = some k

/-! ## What `onMapReady` reads -/

theorem answers_concat (events : List MapEvent) (e : MapEvent) :
    answers (events ++ [e]) = answers events ++ answer (run step init events) e :=
  emitted_concat answer init events e

/-- Only an answer changes the static field. -/
theorem location_step (t : Maps) (e : MapEvent) :
    (t.step e).location = ((t.answer e).getLast?.map Prod.snd).or t.location := by
  cases e with
  | click =>
    unfold step
    dsimp only
    split_ifs
    · rfl
    · rfl
  | response i msg =>
    unfold step answer
    dsimp only
    by_cases h : t.Running i
    · rw [if_pos h, if_pos h]
      rcases msg.bind getResponseBody with _ | con
      · rfl
      · rfl
    · rw [if_neg h, if_neg h]
      rfl
  | mapReady i =>
    unfold step
    dsimp only
    split_ifs
    · rfl
    · rfl

/-- The static field holds the last answer of all. -/
theorem location_eq (events : List MapEvent) :
    (run step init events).location = (answers events).getLast?.map Prod.snd := by
  induction events using List.reverseRecOn with
  | nil => rfl
  | append_singleton events e ih =>
    rw [run_concat, location_step, ih, answers_concat, List.getLast?_append, Option.map_or]

/-! ## What it shows -/

theorem numbers_nodup : (lots.map Prod.fst).Nodup := by decide

/-- The lot of a number is the one entry that has it. -/
theorem lot_eq_some_iff (n : ℤ) (k : ℕ) : lot n = some k ↔ (lots.map Prod.fst)[k]? = some n := by
  unfold lot
  rw [List.findIdx?_eq_some_iff_getElem, List.getElem?_eq_some_iff]
  constructor
  · rintro ⟨hk, hn, -⟩
    refine ⟨by rwa [List.length_map], ?_⟩
    rw [List.getElem_map]
    exact of_decide_eq_true hn
  · rintro ⟨hk, hn⟩
    refine ⟨by rwa [List.length_map] at hk, ?_, fun j hj => ?_⟩
    · rw [List.getElem_map] at hn
      exact decide_eq_true hn
    · intro hjn
      have hlt : j < (lots.map Prod.fst).length := hj.trans hk
      have heq : (lots.map Prod.fst)[j] = (lots.map Prod.fst)[k] := by
        rw [hn, List.getElem_map]
        exact of_decide_eq_true hjn
      exact absurd ((List.Nodup.getElem_inj_iff numbers_nodup).mp heq) (by omega)

/-- Without a lot the index keeps its default, the first entry that is not assigned. -/
theorem check_of_lot_none {n : ℤ} (h : lot n = none) : check n = 4 := by
  have hne := List.findIdx?_eq_none_iff.mp h
  simp only [lots, List.forall_mem_cons, decide_eq_false_iff_not] at hne
  obtain ⟨h39, h234, h2, h3, -⟩ := hne
  simp only [check, lots, List.zipIdx_cons, List.zipIdx_nil, List.foldl_cons, List.foldl_nil,
    if_neg (Ne.symm h39), if_neg (Ne.symm h234), if_neg (Ne.symm h2), if_neg (Ne.symm h3)]

/-- With a lot it is the index of the lot, whose entry is assigned. -/
theorem check_of_lot {n : ℤ} {k : ℕ} (h : lot n = some k) :
    check n = k ∧ ∃ camera, bicycle[k]? = some (some camera) := by
  rw [lot_eq_some_iff] at h
  match k, h with
  | 0, h =>
    obtain rfl := Option.some.inj h
    exact ⟨rfl, _, rfl⟩
  | 1, h =>
    obtain rfl := Option.some.inj h
    exact ⟨rfl, _, rfl⟩
  | 2, h =>
    obtain rfl := Option.some.inj h
    exact ⟨rfl, _, rfl⟩
  | 3, h =>
    obtain rfl := Option.some.inj h
    exact ⟨rfl, _, rfl⟩

/-- A marker is highlighted exactly if it is that of the lot. -/
theorem highlighted_iff {n : ℤ} {j : ℕ} {marker : Marker} (h : (markers n)[j]? = some marker) :
    marker.highlighted = true ↔ lot n = some j := by
  rw [lot_eq_some_iff, List.getElem?_map]
  unfold markers at h
  rw [List.getElem?_map, List.getElem?_zipIdx] at h
  rcases hl : lots[j]? with _ | ⟨number, title⟩
  · rw [hl] at h
    simp at h
  · rw [hl] at h
    obtain rfl := Option.some.inj h
    rw [decide_eq_true_eq, Option.map_some, Option.some_inj]
    exact eq_comm

theorem onMapReady_of_parseInt {con : Text} {n : ℤ} (h : parseInt con = some n) :
    onMapReady (some con)
      = bicycle[check n]?.join.map fun camera => ⟨markers n, camera⟩ := by
  have hparse : (some con >>= parseInt) = some n := h
  unfold onMapReady
  rw [hparse]
  exact (Option.map_eq_bind ..).symm

/-- For the number of a lot the map is drawn, with the camera at that lot, which alone is
highlighted. -/
theorem onMapReady_of_named {con : Text} {k : ℕ} (h : named con = some k) :
    ∃ shown, onMapReady (some con) = some shown ∧ some shown.camera ∈ bicycle ∧
      k < shown.markers.length ∧
      ∀ j marker, shown.markers[j]? = some marker → (marker.highlighted = true ↔ j = k) := by
  obtain ⟨n, hn, hlot⟩ := Option.bind_eq_some_iff.mp h
  obtain ⟨hcheck, camera, hcamera⟩ := check_of_lot hlot
  refine ⟨⟨markers n, camera⟩, ?_, List.mem_of_getElem? hcamera, ?_, fun j marker hmarker => ?_⟩
  · rw [onMapReady_of_parseInt hn, hcheck, hcamera]
    rfl
  · exact (List.findIdx?_eq_some_iff_getElem.mp hlot).1
  · rw [highlighted_iff hmarker, hlot, Option.some_inj]
    exact eq_comm

/-- For anything else it is not. -/
theorem onMapReady_of_not_named {con : Text} (h : named con = none) :
    onMapReady (some con) = none := by
  rcases hn : parseInt con with _ | n
  · have hparse : (some con >>= parseInt) = none := hn
    unfold onMapReady
    rw [hparse]
    rfl
  · unfold named at h
    rw [hn, Option.bind_some] at h
    rw [onMapReady_of_parseInt hn, check_of_lot_none h]
    rfl

/-! ## When the map is right -/

theorem right_iff_agreed (events : List MapEvent) (i : ℕ) : Right events i ↔ Agreed events i := by
  unfold Right Agreed
  rw [location_eq]
  rcases hlast : (answers events).getLast? with _ | last
  · refine iff_of_false ?_ ?_
    · rintro ⟨shown, hshown, -⟩
      exact absurd hshown (by simp [onMapReady])
    · rintro ⟨k, last, con, h, -⟩
      exact absurd h (by simp)
  · rw [Option.map_some]
    constructor
    · rintro ⟨shown, hshown, -, hown⟩
      rcases hk : named last.2 with _ | k
      · rw [onMapReady_of_not_named hk] at hshown
        exact absurd hshown (by simp)
      · obtain ⟨shown', hshown', -, hlt, hhigh⟩ := onMapReady_of_named hk
        obtain rfl : shown' = shown := Option.some.inj (hshown'.symm.trans hshown)
        have hmarker := List.getElem?_eq_getElem hlt
        obtain ⟨con, hmem, hcon⟩ := hown k _ hmarker ((hhigh k _ hmarker).mpr rfl)
        exact ⟨k, last, con, rfl, hk, hmem, hcon⟩
    · rintro ⟨k, last', con, hlast', hk, hmem, hcon⟩
      obtain rfl := Option.some.inj hlast'
      obtain ⟨shown, hshown, hcamera, -, hhigh⟩ := onMapReady_of_named hk
      refine ⟨shown, hshown, hcamera, fun j marker hmarker hj => ⟨con, hmem, ?_⟩⟩
      rw [hcon, (hhigh j marker hmarker).mp hj]

/-- **The map shows where the bicycle is.** In a run every map is drawn, with the camera at
an assigned entry and no lot highlighted but the one the click's own answer names, exactly
if at every call of `onMapReady` the last answer of all names a lot and the click has an
answer of its own that names the same one. -/
theorem map_iff (events : List MapEvent) :
    (∀ pre i post, events = pre ++ .mapReady i :: post →
        (run step init pre).Due i → Right pre i) ↔
      ∀ pre i post, events = pre ++ .mapReady i :: post →
        (run step init pre).Due i → Agreed pre i := by
  constructor
  · intro h pre i post hevents hdue
    exact (right_iff_agreed pre i).mp (h pre i post hevents hdue)
  · intro h pre i post hevents hdue
    exact (right_iff_agreed pre i).mpr (h pre i post hevents hdue)

/-! ## A map before its answer -/

/-- The body of an answer. -/
def body (con : Text) : Text :=
  ['<', 'c', 'o', 'n', '>'] ++ con ++ ['<', '/', 'c', 'o', 'n', '>']

/-- The answer `39` to a click and its map, and a second click. -/
def second_click : List MapEvent :=
  [.click, .response 0 (some (body ['3', '9'])), .mapReady 0, .click]

/-- On the first click `onMapReady` throws if it comes before the answer; on the second it
highlights the lot of the first. -/
theorem map_before_answer :
    (run step init [.click]).Due 0 ∧
      onMapReady (run step init [.click]).location = none ∧ ¬ Right [.click] 0 ∧
      (run step init second_click).Due 1 ∧
      (onMapReady (run step init second_click).location).isSome = true ∧
      ¬ Right second_click 1 := by
  have hnone : onMapReady (run step init [.click]).location = none := rfl
  have hanswers : answers second_click = [(0, ['3', '9'])] := by decide +kernel
  refine ⟨by decide, hnone, ?_, by decide +kernel, by decide +kernel, ?_⟩
  · rintro ⟨shown, hshown, -⟩
    exact absurd (hnone.symm.trans hshown) (by simp)
  · rw [right_iff_agreed]
    rintro ⟨k, last, con, -, -, hmem, -⟩
    rw [hanswers, List.mem_singleton] at hmem
    exact absurd (congrArg Prod.fst hmem) (by simp)

end Maps

end SmartBike.App
