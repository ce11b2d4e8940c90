/-
Markup: the characters that are written as entities, and the nesting of tags.

`entity` writes the five entities that XML has without a declaration. `nest` reads the
tags of a document from left to right with the names of the elements that are open, the last
one first. It does not look at what stands between the tags, so a document is `Nested` whatever
its texts are, as long as none of them brings a tag with it.
-/
import Mathlib.Data.List.Basic

set_option autoImplicit false

namespace Markup

/-! ## Entities -/

/-- A character in a text or in the value of an attribute. -/
def entity (c : Char) : List Char :=
  if c = '&' then "&amp;".toList
  else if c = '<' then "&lt;".toList
  else if c = '>' then "&gt;".toList
  else if c = '"' then "&quot;".toList
  else if c = '\'' then "&apos;".toList
  else [c]

/-- A character that is written as it is. -/
def Bare (c : Char) : Prop := c ≠ '&' ∧ c ≠ '<' ∧ c ≠ '>' ∧ c ≠ '"' ∧ c ≠ '\''

instance : DecidablePred Bare := fun _ => inferInstanceAs (Decidable (_ ∧ _))

theorem entity_bare {c : Char} (h : Bare c) : entity c = [c] := by
  obtain ⟨hamp, hlt, hgt, hquot, hapos⟩ := h
  rw [entity, if_neg hamp, if_neg hlt, if_neg hgt, if_neg hquot, if_neg hapos]

theorem entity_eq_of_not_bare {c : Char} (h : ¬ Bare c) : 4 ≤ (entity c).length := by
  unfold entity
  split_ifs with hamp hlt hgt hquot hapos
  · decide
  · decide
  · decide
  · decide
  · decide
  · exact absurd ⟨hamp, hlt, hgt, hquot, hapos⟩ h

/-- No entity has the characters of a tag. -/
theorem not_mem_entity {d : Char} (hd : d = '<' ∨ d = '>' ∨ d = '"') (c : Char) : d ∉ entity c := by
  unfold entity
  rcases hd with rfl | rfl | rfl
  all_goals
    split_ifs with hamp hlt hgt hquot hapos
    · decide
    · decide
    · decide
    · decide
    · decide
    · simp only [List.mem_singleton]
      intro h
      first
        | exact hlt h.symm
        | exact hgt h.symm
        | exact hquot h.symm

theorem not_mem_flatMap_entity {d : Char} (hd : d = '<' ∨ d = '>' ∨ d = '"') (s : List Char) :
    d ∉ s.flatMap entity := by
  intro h
  obtain ⟨c, -, hc⟩ := List.mem_flatMap.mp h
  exact not_mem_entity hd c hc

/-! ## Tags -/

/-- What stands in the tags, from left to right. -/
def tags : List Char → List (List Char)
  | [] => []
  | '<' :: s => s.takeWhile (· ≠ '>') :: tags s
  | _ :: s => tags s

/-- The name a tag begins with. -/
def tagName (tag : List Char) : List Char := tag.takeWhile fun c => c ≠ ' ' && c ≠ '/'

/-- The elements that are open after some tags; `none` where one is closed that is not the last
one opened. -/
def nest : List (List Char) → List (List Char) → Option (List (List Char))
  | stack, [] => some stack
  | stack, tag :: tags =>
    if tag.head? = some '?' then nest stack tags
    else if tag.head? = some '/' then
      match stack with
      | [] => none
      | name :: stack => if name = tag.tail then nest stack tags else none
    else if tag.getLast? = some '/' then nest stack tags
    else nest (tagName tag :: stack) tags

/-- Every element is closed, in the order of their nesting. -/
def Nested (s : List Char) : Prop := nest [] (tags s) = some []

theorem tags_append {t : List Char} (ht : '<' ∉ t) (s : List Char) : tags (t ++ s) = tags s := by
  induction t with
  | nil => rfl
  | cons c t ih =>
    have hc : c ≠ '<' := fun h => ht (h ▸ List.mem_cons_self)
    rw [List.cons_append, tags]
    · exact ih fun h => ht (List.mem_cons_of_mem _ h)
    · exact hc

/-- A tag, and what follows it. -/
theorem tags_tag {tag : List Char} (hopen : '<' ∉ tag) (hclose : '>' ∉ tag) (s : List Char) :
    tags ('<' :: (tag ++ '>' :: s)) = tag :: tags s := by
  have htake : (tag ++ '>' :: s).takeWhile (· ≠ '>') = tag := by
    rw [List.takeWhile_append_of_pos, List.takeWhile_cons_of_neg (by simp), List.append_nil]
    intro c hc
    simpa using fun h : c = '>' => hclose (h ▸ hc)
  rw [tags, htake, tags_append hopen]
  rw [show tags ('>' :: s) = tags s from rfl]

/-! ## Elements -/

/-- A name that no tag can be mistaken by. -/
structure Name (name : List Char) : Prop where
  ne_nil : name ≠ []
  chars : ∀ c ∈ name, c ≠ ' ' ∧ c ≠ '/' ∧ c ≠ '<' ∧ c ≠ '>' ∧ c ≠ '?'

namespace Name

variable {name : List Char}

theorem head (h : Name name) (rest : List Char) :
    (name ++ rest).head? ≠ some '?' ∧ (name ++ rest).head? ≠ some '/' := by
  obtain ⟨c, name, rfl⟩ := List.exists_cons_of_ne_nil h.ne_nil
  obtain ⟨-, hslash, -, -, hquestion⟩ := h.chars c List.mem_cons_self
  rw [List.cons_append, List.head?_cons]
  exact ⟨fun heq => hquestion (Option.some.inj heq), fun heq => hslash (Option.some.inj heq)⟩

theorem tagName (h : Name name) {rest : List Char} (hrest : rest = [] ∨ rest.head? = some ' ') :
    tagName (name ++ rest) = name := by
  have hall : ∀ c ∈ name, (c ≠ ' ' && c ≠ '/') = true := by
    intro c hc
    obtain ⟨hspace, hslash, -⟩ := h.chars c hc
    simpa using ⟨hspace, hslash⟩
  have hnone : rest.takeWhile (fun c => c ≠ ' ' && c ≠ '/') = [] := by
    cases rest with
    | nil => rfl
    | cons c rest =>
      have hc : c = ' ' := by simpa using hrest
      rw [List.takeWhile_cons_of_neg (by simp [hc])]
  rw [Markup.tagName, List.takeWhile_append_of_pos hall, hnone, List.append_nil]

theorem not_mem (h : Name name) {c : Char} (hc : c = '<' ∨ c = '>') : c ∉ name := by
  intro hmem
  obtain ⟨-, -, hlt, hgt, -⟩ := h.chars c hmem
  rcases hc with rfl | rfl
  · exact hlt rfl
  · exact hgt rfl

/-- An element is opened. -/
theorem nest_open (h : Name name) {rest : List Char}
    (hrest : rest = [] ∨ rest.head? = some ' ' ∧ rest.getLast? ≠ some '/')
    (stack tags : List (List Char)) :
    nest stack ((name ++ rest) :: tags) = nest (name :: stack) tags := by
  obtain ⟨hquestion, hslash⟩ := h.head rest
  have hlast : (name ++ rest).getLast? ≠ some '/' := by
    rcases hrest with rfl | ⟨hhead, hlast⟩
    · rw [List.append_nil]
      intro heq
      exact (h.chars '/' (List.mem_of_getLast? heq)).2.1 rfl
    · have hne : rest ≠ [] := by
        rintro rfl
        simp at hhead
      rwa [List.getLast?_append_of_ne_nil _ hne]
  have hname : Markup.tagName (name ++ rest) = name :=
    h.tagName (hrest.imp_right And.left)
  rw [nest.eq_def]
  dsimp only
  rw [if_neg hquestion, if_neg hslash, if_neg hlast, hname]

/-- An element without content. -/
theorem nest_empty (h : Name name) (rest : List Char) (stack tags : List (List Char)) :
    nest stack ((name ++ rest ++ ['/']) :: tags) = nest stack tags := by
  obtain ⟨hquestion, hslash⟩ := h.head (rest ++ ['/'])
  rw [← List.append_assoc] at hquestion hslash
  rw [nest.eq_def]
  dsimp only
  rw [if_neg hquestion, if_neg hslash, if_pos List.getLast?_concat]

/-- The last element is closed. -/
theorem nest_close (name : List Char) (stack tags : List (List Char)) :
    nest (name :: stack) (('/' :: name) :: tags) = nest stack tags := by
  have hquestion : ('/' :: name).head? ≠ some '?' := by simp
  rw [nest.eq_def]
  dsimp only
  rw [if_neg hquestion]
  exact (if_pos rfl).trans (if_pos rfl)

end Name

end Markup
