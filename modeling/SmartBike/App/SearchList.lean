/-
`location_bt.onClick` of `SearchLocationActivity.java`: the list of results of a search.

A click clears the adapter and sends its query; the callback of the query, on a thread of
its own, adds what was found. Nothing tells the callbacks apart, so what is found for an
earlier query after a click is added to the results of the later one. A callback adds its
items one by one, and here clicks and other callbacks may come in between.

`Filling` compares the list with what the last query has found so far: they are the same
but for the items of earlier queries, `late`, and these also count.
-/
import SmartBike.App.ListViewAdapter

set_option autoImplicit false

open Runs

namespace SmartBike.App

structure TMapPOIItem (F : Type*) where
  POIName : String
  POIAddress : String
  POIPoint : TMapPoint F
  deriving DecidableEq, Repr

/-- What `addItem` makes of a point of interest. -/
def TMapPOIItem.item {F : Type*} (item : TMapPOIItem F) : DescribedItem F :=
  ⟨⟨item.POIName, item.POIPoint.latitude, item.POIPoint.longitude⟩, item.POIAddress⟩

/-- A search, by its click: the query, what its callback was called with, `none` before,
and what of that the callback has still to add. -/
structure Search (F : Type*) where
  location : String
  poiItem : Option (List (TMapPOIItem F))
  rest : List (TMapPOIItem F)
  deriving DecidableEq, Repr

/-- The callback has run. -/
def Search.Done {F : Type*} (search : Search F) : Prop :=
  search.poiItem ≠ none ∧ search.rest = []

instance {F : Type*} (search : Search F) : Decidable search.Done :=
  decidable_of_iff (search.poiItem.isSome ∧ search.rest.isEmpty)
    (and_congr Option.isSome_iff_ne_none List.isEmpty_iff)

/-- The adapter and the searches, oldest first. -/
structure SearchList (F : Type*) where
  adapter : ListViewAdapter F
  searches : List (Search F)
  deriving DecidableEq, Repr

inductive SearchEvent (F : Type*) where
  | click (location : String)
  -- the callback of the `i`-th search is called
  | onFindAllPOI (i : ℕ) (poiItem : List (TMapPOIItem F))
  -- and adds the next item
  | addItem (i : ℕ)
  deriving DecidableEq, Repr

namespace SearchEvent

variable {F : Type*}

def IsClick : SearchEvent F → Prop
  | click _ => True
  | _ => False

end SearchEvent

namespace SearchList

variable {F : Type*}

def init : SearchList F := ⟨.init, []⟩

/-- Lines 211-214. -/
def onClick (s : SearchList F) (location : String) : SearchList F :=
  ⟨s.adapter.clearItem, s.searches ++ [⟨location, none, []⟩]⟩

/-- The item that the callback of the `i`-th search adds next. -/
def next (s : SearchList F) (i : ℕ) : Option (TMapPOIItem F) :=
  s.searches[i]?.bind fun search => search.rest.head?

def step (s : SearchList F) : SearchEvent F → SearchList F
  | .click location => s.onClick location
  | .onFindAllPOI i poiItem =>
    match s.searches[i]? with
    | some ⟨location, none, _⟩ =>
      { s with searches := s.searches.set i ⟨location, some poiItem, poiItem⟩ }
    | _ => s
  | .addItem i =>
    match s.searches[i]? with
    | some ⟨location, poiItem, item :: rest⟩ =>
      ⟨s.adapter.addItem item.POIName item.POIAddress item.POIPoint.latitude item.POIPoint.longitude,
        s.searches.set i ⟨location, poiItem, rest⟩⟩
    | _ => s

/-- The item that an event adds for a search that is not the last one. -/
def late (s : SearchList F) : SearchEvent F → List (TMapPOIItem F)
  | .addItem i => if i + 1 = s.searches.length then [] else (s.next i).toList
  | _ => []

/-- The event adds no item of an earlier search. -/
def Timely (s : SearchList F) (e : SearchEvent F) : Prop := s.late e = []

instance (s : SearchList F) (e : SearchEvent F) : Decidable (s.Timely e) :=
  decidable_of_iff (s.late e).isEmpty List.isEmpty_iff

/-! ## Since the last click -/

/-- Of the searches, an event changes the one it is of. -/
theorem getLast?_set_self {α : Type*} {l : List α} {i : ℕ} (h : i + 1 = l.length) (a : α) :
    (l.set i a).getLast? = some a := by
  rw [List.getLast?_eq_getElem?, List.length_set, ← h, Nat.add_sub_cancel,
    List.getElem?_set_self (by omega)]

theorem getLast?_set_of_ne {α : Type*} {l : List α} {i : ℕ} (h : i + 1 ≠ l.length) (a : α) :
    (l.set i a).getLast? = l.getLast? := by
  rw [List.getLast?_eq_getElem?, List.getLast?_eq_getElem?, List.length_set]
  by_cases hi : i = l.length - 1
  · have hnil : l = [] := List.eq_nil_of_length_eq_zero (by omega)
    rw [hnil]
    rfl
  · rw [List.getElem?_set_ne hi]

/-- The list, while the last search is filling it and `late` has come in between. -/
structure Filling (s : SearchList F) (search : Search F) (late : List (TMapPOIItem F)) : Prop where
  last : s.searches.getLast? = some search
  view : s.adapter.filteredItemList = .listViewItemList
  waiting : search.poiItem = none → search.rest = []
  items : late = [] → s.adapter.listViewItemList ++ search.rest.map TMapPOIItem.item
    = (search.poiItem.getD []).map TMapPOIItem.item
  count : s.adapter.listViewItemList.length + search.rest.length
    = (search.poiItem.getD []).length + late.length

theorem filling_click {s : SearchList F} (h : s.adapter.filteredItemList = .listViewItemList)
    (location : String) : Filling (s.onClick location) ⟨location, none, []⟩ [] where
  last := List.getLast?_concat
  view := h
  waiting _ := rfl
  items _ := rfl
  count := rfl

/-- The same search, and the list as it was. -/
theorem Filling.other {s s' : SearchList F} {search : Search F} {late : List (TMapPOIItem F)}
    (h : Filling s search late) (hlast : s'.searches.getLast? = s.searches.getLast?)
    (hadapter : s'.adapter = s.adapter) : Filling s' search late := by
  refine ⟨hlast.trans h.last, ?_, h.waiting, ?_, ?_⟩
  · rw [hadapter]
    exact h.view
  · rw [hadapter]
    exact h.items
  · rw [hadapter]
    exact h.count

/-- The search at an index is the last one or it is not. -/
theorem Filling.eq_of_last {s : SearchList F} {search search' : Search F}
    {late : List (TMapPOIItem F)} (h : Filling s search late) {i : ℕ}
    (hi : i + 1 = s.searches.length) (hfound : s.searches[i]? = some search') :
    search' = search := by
  have hlast := h.last
  rw [List.getLast?_eq_getElem?, ← hi, Nat.add_sub_cancel, hfound] at hlast
  exact Option.some.inj hlast

theorem filling_onFindAllPOI {s : SearchList F} {search : Search F} {late : List (TMapPOIItem F)}
    (h : Filling s search late) (i : ℕ) (poiItem : List (TMapPOIItem F)) :
    ∃ search', search'.location = search.location ∧
      Filling (s.step (.onFindAllPOI i poiItem)) search' late := by
  unfold step
  dsimp only
  split
  · rename_i location rest hfound
    by_cases hi : i + 1 = s.searches.length
    · obtain rfl := h.eq_of_last hi hfound
      have hrest := h.waiting rfl
      have hitems := h.items
      have hcount := h.count
      dsimp only at hrest hitems hcount
      subst hrest
      refine ⟨⟨location, some poiItem, poiItem⟩, rfl, getLast?_set_self hi _, h.view, by simp, ?_, ?_⟩
      · intro hlate
        have hnil := hitems hlate
        simp only [List.map_nil, List.append_nil, Option.getD_none] at hnil
        dsimp only
        rw [hnil, List.nil_append, Option.getD_some]
      · simp only [List.length_nil, Option.getD_none, Option.getD_some] at hcount ⊢
        omega
    · exact ⟨search, rfl, h.other (getLast?_set_of_ne hi _) rfl⟩
  · exact ⟨search, rfl, h⟩

theorem filling_addItem {s : SearchList F} {search : Search F} {late : List (TMapPOIItem F)}
    (h : Filling s search late) (i : ℕ) :
    ∃ search', search'.location = search.location ∧
      Filling (s.step (.addItem i)) search' (late ++ s.late (.addItem i)) := by
  unfold step SearchList.late next
  dsimp only
  split
  · rename_i location poiItem item rest hfound
    rw [hfound]
    by_cases hi : i + 1 = s.searches.length
    · -- an item of the last search
      rw [if_pos hi, List.append_nil]
      obtain rfl := h.eq_of_last hi hfound
      have hitems := h.items
      have hcount := h.count
      have hwaiting := h.waiting
      dsimp only at hitems hcount hwaiting
      refine ⟨⟨location, poiItem, rest⟩, rfl, getLast?_set_self hi _, h.view, ?_, ?_, ?_⟩
      · intro hnone
        exact absurd (hwaiting hnone) (by simp)
      · intro hlate
        rw [← hitems hlate, List.map_cons]
        exact List.append_assoc ..
      · simp only [ListViewAdapter.addItem, List.length_append, List.length_cons,
          List.length_nil] at hcount ⊢
        omega
    · rw [if_neg hi]
      refine ⟨search, rfl, (getLast?_set_of_ne hi _).trans h.last, h.view, h.waiting, ?_, ?_⟩
      · intro hlate
        exact absurd (List.append_eq_nil_iff.mp hlate).2 (by simp)
      · have hcount := h.count
        simp only [ListViewAdapter.addItem, List.length_append, List.length_cons, List.length_nil,
          Option.bind_some, List.head?_cons, Option.toList_some]
        omega
  · rename_i hnone
    refine ⟨search, rfl, ?_⟩
    have hlate : (if i + 1 = s.searches.length then []
        else (s.searches[i]?.bind fun search => search.rest.head?).toList) = [] := by
      split_ifs
      · rfl
      · rcases hfound : s.searches[i]? with _ | ⟨location, poiItem, rest⟩
        · rfl
        · cases rest with
          | nil => rfl
          | cons item rest => exact absurd hfound (hnone location poiItem item rest)
    rw [hlate, List.append_nil]
    exact h

/-- **One event after the last click**: the list keeps filling. -/
theorem filling_step {s : SearchList F} {search : Search F} {late : List (TMapPOIItem F)}
    (h : Filling s search late) {e : SearchEvent F} (he : ¬ e.IsClick) :
    ∃ search', search'.location = search.location ∧
      Filling (s.step e) search' (late ++ s.late e) := by
  cases e with
  | click location => exact absurd trivial he
  | onFindAllPOI i poiItem =>
    obtain ⟨search', hlocation, h'⟩ := filling_onFindAllPOI h i poiItem
    refine ⟨search', hlocation, ?_⟩
    change Filling _ search' (late ++ [])
    rwa [List.append_nil]
  | addItem i => exact filling_addItem h i

/-- **The events after the last click.** -/
theorem filling_run {s : SearchList F} {search : Search F} {late : List (TMapPOIItem F)}
    (h : Filling s search late) {events : List (SearchEvent F)} (hevents : ∀ e ∈ events, ¬ e.IsClick) :
    ∃ search', search'.location = search.location ∧
      Filling (run step s events) search' (late ++ emitted step SearchList.late s events) := by
  induction events generalizing s search late with
  | nil => exact ⟨search, rfl, by rwa [emitted_nil, List.append_nil]⟩
  | cons e events ih =>
    rw [List.forall_mem_cons] at hevents
    obtain ⟨search', hlocation, h'⟩ := filling_step h hevents.1
    obtain ⟨search'', hlocation', h''⟩ := ih h' hevents.2
    refine ⟨search'', hlocation'.trans hlocation, ?_⟩
    rwa [run_cons, emitted_cons, ← List.append_assoc]

/-- No filter is ever applied. -/
theorem view_run (events : List (SearchEvent F)) :
    (run step init events).adapter.filteredItemList = .listViewItemList := by
  have hstep : ∀ s (e : SearchEvent F), s.adapter.filteredItemList = .listViewItemList →
      (step s e).adapter.filteredItemList = .listViewItemList := by
    intro s e h
    cases e with
    | click location => exact h
    | onFindAllPOI i poiItem =>
      unfold step
      dsimp only
      split
      · exact h
      · exact h
    | addItem i =>
      unfold step
      dsimp only
      split
      · exact h
      · exact h
  exact invariant hstep rfl events

/-! ## What the list shows -/

/-- **The last query.** Once all callbacks have run, the adapter serves what was found for
the query of the last click, in order, exactly if no callback of an earlier click has added
an item since. -/
theorem last_query_iff (before after : List (SearchEvent F)) (location : String)
    (hlast : ∀ e ∈ after, ¬ e.IsClick)
    (hdone : ∀ search ∈ (run step init (before ++ .click location :: after)).searches,
      search.Done) :
    ∃ search poiItem,
      (run step init (before ++ .click location :: after)).searches.getLast? = some search ∧
      search.location = location ∧ search.poiItem = some poiItem ∧
      ((run step init (before ++ .click location :: after)).adapter.Serves
          (poiItem.map TMapPOIItem.item) ↔
        Steps step Timely (run step init (before ++ [.click location])) after) := by
  have hclick := filling_click (view_run before) location
  obtain ⟨search, hlocation, h⟩ := filling_run hclick hlast
  rw [List.nil_append] at h
  have hrun : run step init (before ++ .click location :: after)
      = run step ((run step init before).onClick location) after := by
    rw [run_append, run_cons]
    rfl
  have hsteps : Steps step Timely (run step init (before ++ [.click location])) after
      ↔ emitted step SearchList.late ((run step init before).onClick location) after = [] := by
    rw [run_concat]
    exact steps_emitted_nil _ after
  rw [hrun] at hdone ⊢
  obtain ⟨hanswered, hrest⟩ := hdone search (List.mem_of_getLast? h.last)
  obtain ⟨poiItem, hpoi⟩ := Option.ne_none_iff_exists'.mp hanswered
  have hitems := h.items
  have hcount := h.count
  rw [hpoi, hrest, Option.getD_some] at hitems hcount
  refine ⟨search, poiItem, h.last, hlocation, hpoi, ?_⟩
  rw [hsteps, ListViewAdapter.serves_iff, ListViewAdapter.served, h.view]
  dsimp only
  constructor
  · intro heq
    rw [heq, List.length_map, List.length_nil, Nat.add_zero] at hcount
    exact List.eq_nil_of_length_eq_zero (by omega)
  · intro hlate
    have hmap := hitems hlate
    rwa [List.map_nil, List.append_nil] at hmap

/-! ## Two searches -/

def namsan : TMapPOIItem ℕ := ⟨"Namsan Park", "Seoul", ⟨37, 126⟩⟩

def dongguk : TMapPOIItem ℕ := ⟨"Dongguk University", "Seoul", ⟨37, 127⟩⟩

/-- The first query is answered before the second click: the list shows the second. -/
theorem last_query_in_turn :
    (run step init ([.click "park", .onFindAllPOI 0 [namsan], .addItem 0] ++
        .click "university" :: [.onFindAllPOI 1 [dongguk], .addItem 1])).adapter.Serves
      [dongguk.item] := by
  obtain ⟨search, poiItem, hsearch, -, hpoi, hiff⟩ :=
    last_query_iff [.click "park", .onFindAllPOI 0 [namsan], .addItem 0]
      [.onFindAllPOI 1 [dongguk], .addItem 1] "university"
      (by rintro e (_ | ⟨_, _ | ⟨_, ⟨⟩⟩⟩) <;> exact id) (by decide)
  obtain rfl := Option.some.inj hsearch
  obtain rfl := Option.some.inj hpoi
  exact hiff.mpr (by decide)

/-- It is answered after it: the list shows what was found for both. -/
theorem earlier_query_shown :
    ¬ (run step init ([.click "park"] ++ .click "university" ::
        [.onFindAllPOI 1 [dongguk], .addItem 1, .onFindAllPOI 0 [namsan], .addItem 0])).adapter.Serves
      [dongguk.item] ∧
    (run step init ([.click "park"] ++ .click "university" ::
        [.onFindAllPOI 1 [dongguk], .addItem 1, .onFindAllPOI 0 [namsan], .addItem 0])).adapter.served
      = [dongguk.item, namsan.item] := by
  rw [ListViewAdapter.serves_iff]
  decide

end SearchList

end SmartBike.App
