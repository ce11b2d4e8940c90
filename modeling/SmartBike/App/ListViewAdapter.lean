/-
`ListViewAdapter.java`: the list of search results, and its filter.

The adapter keeps all items in `listViewItemList` and serves `filteredItemList`. The two
start as one object, so what is added is served; an application of the filter with a text
puts a list of its own in the place of the second, and only a filter without a text makes
them one object again. `addItem` and `clearItem` touch the first alone.

So what is served is what should be (`held`) until an item is added or cleared that the
filter in force lets pass. `filtered_iff` says that nothing else breaks it.
-/
import Mathlib.Data.List.Infix
import SmartBike.App.Route

set_option autoImplicit false

open Runs

namespace SmartBike.App

/-- An item with its description. -/
structure DescribedItem (F : Type*) extends ListViewItem F where
  descStr : String
  deriving DecidableEq, Repr

/-- What `filteredItemList` refers to. -/
inductive FilteredItemList (F : Type*) where
  -- the object `listViewItemList`
  | listViewItemList
  -- a list of its own
  | itemList (items : List (DescribedItem F))
  deriving DecidableEq, Repr

structure ListViewAdapter (F : Type*) where
  listViewItemList : List (DescribedItem F)
  filteredItemList : FilteredItemList F
  deriving DecidableEq, Repr

/-- `s.contains(t)`. -/
def contains (s t : String) : Bool := decide (t.toList <:+: s.toList)

namespace ListViewAdapter

variable {F : Type*}

def init : ListViewAdapter F := ⟨[], .listViewItemList⟩

/-- The list that `filteredItemList` is. -/
def served (a : ListViewAdapter F) : List (DescribedItem F) :=
  match a.filteredItemList with
  | .listViewItemList => a.listViewItemList
  | .itemList items => items

def getCount (a : ListViewAdapter F) : ℕ := a.served.length

/-- `none` where `get` throws. -/
def getItem (a : ListViewAdapter F) (position : ℕ) : Option (DescribedItem F) :=
  a.served[position]?

def addItem (a : ListViewAdapter F) (title desc : String) (lat lon : F) : ListViewAdapter F :=
  { a with listViewItemList := a.listViewItemList ++ [⟨⟨title, lat, lon⟩, desc⟩] }

def clearItem (a : ListViewAdapter F) : ListViewAdapter F := { a with listViewItemList := [] }

section Filter

variable (toUpperCase : String → String)

/-- The title or the description contains the text, ignoring case. -/
def Matches (constraint : String) (item : DescribedItem F) : Prop :=
  contains (toUpperCase item.titleStr) (toUpperCase constraint) = true ∨
    contains (toUpperCase item.descStr) (toUpperCase constraint) = true

instance (constraint : String) (item : DescribedItem F) :
    Decidable (Matches toUpperCase constraint item) :=
  inferInstanceAs (Decidable (_ ∨ _))

/-- `results.values`; the constraint may be `null`. -/
def performFiltering (a : ListViewAdapter F) (constraint : Option String) : FilteredItemList F :=
  match constraint with
  | none => .listViewItemList
  | some constraint =>
    if constraint = "" then .listViewItemList
    else .itemList (a.listViewItemList.filter fun item => Matches toUpperCase constraint item)

def publishResults (a : ListViewAdapter F) (values : FilteredItemList F) : ListViewAdapter F :=
  { a with filteredItemList := values }

/-! ## Runs of operations -/

inductive Op (F : Type*) where
  | addItem (title desc : String) (lat lon : F)
  | clearItem
  -- `performFiltering`, then `publishResults`
  | filter (constraint : Option String)
  deriving DecidableEq, Repr

/-- One operation, with the constraint of the filter applied last. -/
def step (s : ListViewAdapter F × Option String) : Op F → ListViewAdapter F × Option String
  | .addItem title desc lat lon => (s.1.addItem title desc lat lon, s.2)
  | .clearItem => (s.1.clearItem, s.2)
  | .filter constraint =>
    (s.1.publishResults (s.1.performFiltering toUpperCase constraint), constraint)

/-- No filter has been applied yet. -/
def unfiltered : ListViewAdapter F × Option String := (init, none)

/-- The items that a constraint lets pass: all if there is none. -/
def Passes (constraint : Option String) (item : DescribedItem F) : Prop :=
  ∀ text, constraint = some text → text ≠ "" → Matches toUpperCase text item

instance (constraint : Option String) (item : DescribedItem F) :
    Decidable (Passes toUpperCase constraint item) :=
  match constraint with
  | none => isTrue fun _ h => absurd h (by simp)
  | some text =>
    decidable_of_iff (text ≠ "" → Matches toUpperCase text item)
      ⟨fun h _ heq => Option.some.inj heq ▸ h, fun h => h text rfl⟩

/-- What should be served. -/
def held (s : ListViewAdapter F × Option String) : List (DescribedItem F) :=
  s.1.listViewItemList.filter fun item => Passes toUpperCase s.2 item

/-- `getCount` and `getItem` serve this list. -/
def Serves (a : ListViewAdapter F) (items : List (DescribedItem F)) : Prop :=
  a.getCount = items.length ∧ ∀ position, a.getItem position = items[position]?

theorem serves_iff (a : ListViewAdapter F) (items : List (DescribedItem F)) :
    a.Serves items ↔ a.served = items := by
  constructor
  · rintro ⟨-, hget⟩
    exact List.ext_getElem? hget
  · rintro rfl
    exact ⟨rfl, fun _ => rfl⟩

/-- A filter with a text is in force. -/
def Constrained (constraint : Option String) : Prop := constraint ≠ none ∧ constraint ≠ some ""

instance (constraint : Option String) : Decidable (Constrained constraint) :=
  inferInstanceAs (Decidable (_ ∧ _))

/-- The operation changes nothing that a filter in force lets pass. -/
def Unseen (s : ListViewAdapter F × Option String) : Op F → Prop
  | .addItem title desc lat lon =>
    Constrained s.2 → ¬ Passes toUpperCase s.2 ⟨⟨title, lat, lon⟩, desc⟩
  | .clearItem =>
    Constrained s.2 → ∀ item ∈ s.1.listViewItemList, ¬ Passes toUpperCase s.2 item
  | .filter _ => True

instance (s : ListViewAdapter F × Option String) (op : Op F) :
    Decidable (Unseen toUpperCase s op) :=
  match op with
  | .addItem .. => inferInstanceAs (Decidable (_ → _))
  | .clearItem => inferInstanceAs (Decidable (_ → _))
  | .filter _ => inferInstanceAs (Decidable True)

/-! ## What is served -/

theorem passes_of_not_constrained {constraint : Option String} (h : ¬ Constrained constraint)
    (item : DescribedItem F) : Passes toUpperCase constraint item := by
  rintro text rfl hne
  exact absurd ⟨by simp, by simpa using hne⟩ h

theorem passes_some {text : String} (h : text ≠ "") (item : DescribedItem F) :
    Passes toUpperCase (some text) item ↔ Matches toUpperCase text item := by
  constructor
  · intro hp
    exact hp text rfl h
  · rintro hm text' htext -
    rwa [← Option.some.inj htext]

theorem held_of_not_constrained {s : ListViewAdapter F × Option String}
    (h : ¬ Constrained s.2) : held toUpperCase s = s.1.listViewItemList := by
  unfold held
  rw [List.filter_eq_self]
  exact fun item _ => decide_eq_true (passes_of_not_constrained toUpperCase h item)

/-- With a filter in force `filteredItemList` is a list of its own, with the items that
should be served; otherwise it is `listViewItemList`. -/
structure FilterInv (s : ListViewAdapter F × Option String) : Prop where
  constrained : Constrained s.2 → s.1.filteredItemList = .itemList (held toUpperCase s)
  free : ¬ Constrained s.2 → s.1.filteredItemList = .listViewItemList

theorem filterInv_unfiltered : FilterInv toUpperCase (unfiltered (F := F)) where
  constrained h := absurd rfl h.1
  free _ := rfl

theorem FilterInv.serves {s : ListViewAdapter F × Option String} (h : FilterInv toUpperCase s) :
    s.1.Serves (held toUpperCase s) := by
  rw [serves_iff, served]
  by_cases hc : Constrained s.2
  · rw [h.constrained hc]
  · rw [h.free hc, held_of_not_constrained toUpperCase hc]

/-- A filter that is applied serves what should be. -/
theorem filterInv_filter (a : ListViewAdapter F) (constraint : Option String) :
    FilterInv toUpperCase (a.publishResults (a.performFiltering toUpperCase constraint), constraint) := by
  constructor
  · rintro ⟨hnone, hempty⟩
    obtain ⟨text, rfl⟩ := Option.ne_none_iff_exists'.mp hnone
    have hne : text ≠ "" := fun h => hempty (congrArg some h)
    have hfilter : a.performFiltering toUpperCase (some text)
        = .itemList (a.listViewItemList.filter fun item => Matches toUpperCase text item) :=
      if_neg hne
    unfold publishResults held
    dsimp only
    rw [hfilter]
    congr 2
    funext item
    exact decide_eq_decide.mpr (passes_some toUpperCase hne item).symm
  · intro hfree
    rcases constraint with _ | text
    · rfl
    · have hempty : text = "" := by
        by_contra hne
        exact hfree ⟨by simp, by simpa using hne⟩
      exact if_pos hempty

/-- **What one unseen operation preserves.** -/
theorem filterInv_step (s : ListViewAdapter F × Option String) (op : Op F)
    (h : FilterInv toUpperCase s) (hop : Unseen toUpperCase s op) :
    FilterInv toUpperCase (step toUpperCase s op) := by
  cases op with
  | filter constraint => exact filterInv_filter toUpperCase s.1 constraint
  | addItem title desc lat lon =>
    refine ⟨fun hc => ?_, h.free⟩
    have hheld : held toUpperCase (step toUpperCase s (.addItem title desc lat lon))
        = held toUpperCase s := by
      unfold step addItem held
      dsimp only
      rw [List.filter_append, List.filter_cons_of_neg (by simpa using hop hc), List.filter_nil,
        List.append_nil]
    rw [hheld]
    exact h.constrained hc
  | clearItem =>
    refine ⟨fun hc => ?_, h.free⟩
    have hheld : held toUpperCase s = [] := by
      unfold held
      rw [List.filter_eq_nil_iff]
      exact fun item hitem => by simpa using hop hc item hitem
    have hview := h.constrained hc
    rw [hheld] at hview
    exact hview

/-- **An operation that is seen** is one that is not served. -/
theorem not_serves_step (s : ListViewAdapter F × Option String) (op : Op F)
    (h : FilterInv toUpperCase s) (hop : ¬ Unseen toUpperCase s op) :
    ¬ (step toUpperCase s op).1.Serves (held toUpperCase (step toUpperCase s op)) := by
  rw [serves_iff]
  cases op with
  | filter constraint => exact absurd trivial hop
  | addItem title desc lat lon =>
    simp only [Unseen, Classical.not_imp, not_not] at hop
    obtain ⟨hc, hpass⟩ := hop
    have hserved : (step toUpperCase s (.addItem title desc lat lon)).1.served
        = held toUpperCase s := by
      unfold step addItem served
      dsimp only
      rw [h.constrained hc]
    have hheld : held toUpperCase (step toUpperCase s (.addItem title desc lat lon))
        = held toUpperCase s ++ [⟨⟨title, lat, lon⟩, desc⟩] := by
      unfold step addItem held
      dsimp only
      rw [List.filter_append, List.filter_cons_of_pos (by simpa using hpass), List.filter_nil]
    rw [hserved, hheld]
    intro heq
    have hlen := congrArg List.length heq
    rw [List.length_append, List.length_singleton] at hlen
    omega
  | clearItem =>
    simp only [Unseen, Classical.not_imp, not_forall, not_not] at hop
    obtain ⟨hc, item, hitem, hpass⟩ := hop
    have hserved : (step toUpperCase s .clearItem).1.served = held toUpperCase s := by
      unfold step clearItem served
      dsimp only
      rw [h.constrained hc]
    have hmem : item ∈ held toUpperCase s := by
      unfold held
      rw [List.mem_filter]
      exact ⟨hitem, decide_eq_true hpass⟩
    rw [hserved]
    intro heq
    rw [heq] at hmem
    exact absurd hmem (by simp [held, step, clearItem])

/-- **The filtered view.** In all the states of a run the adapter serves the items held
that the last constraint lets pass, exactly if no item that a filter in force lets pass is
added or cleared. -/
theorem filtered_iff (ops : List (Op F)) :
    (∀ pre, pre <+: ops →
        (run (step toUpperCase) unfiltered pre).1.Serves
          (held toUpperCase (run (step toUpperCase) unfiltered pre))) ↔
      Steps (step toUpperCase) (Unseen toUpperCase) (unfiltered (F := F)) ops :=
  forall_prefix_iff_steps (P := fun s => s.1.Serves (held toUpperCase s))
    (filterInv_step toUpperCase) (fun _ h => h.serves) (not_serves_step toUpperCase)
    (filterInv_unfiltered toUpperCase) ops

/-! ## An item behind a filter -/

end Filter

/-- Capitals of the Latin alphabet. -/
def upper (s : String) : String := String.ofList (s.toList.map Char.toUpper)

/-- An item is added that the filter in force lets pass: it is not served. Then all are
cleared: the one that was there before the filter still is. -/
theorem item_behind_filter :
    ¬ (run (step upper) unfiltered
        [.filter (some "park"), .addItem "Namsan Park" "Seoul" 37 126]).1.Serves
      (held upper (run (step upper) unfiltered
        [.filter (some "park"), .addItem "Namsan Park" "Seoul" 37 126])) ∧
    ¬ (run (step upper) unfiltered
        [.addItem "Namsan Park" "Seoul" 37 126, .filter (some "park"), .clearItem]).1.Serves
      (held upper (run (step upper) unfiltered
        [.addItem "Namsan Park" "Seoul" 37 126, .filter (some "park"), .clearItem])) := by
  rw [serves_iff, serves_iff]
  decide +kernel

end ListViewAdapter

end SmartBike.App
