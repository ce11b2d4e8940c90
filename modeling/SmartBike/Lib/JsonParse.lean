/-
`JSON.parse`.

What numbers become is a parameter. A string is a text of UTF-16 units, since that is what its
escapes stand for; a text that `JSON.stringify` has quoted is read back (`scan_flatMap_escape`),
and none is longer than what it is read from (`scan_length`).
-/
import SmartBike.Lib.JsValue
import SmartBike.Lib.Utf16
import Mathlib.Data.List.TakeWhile

set_option autoImplicit false

open Utf16

namespace Js

/-! ## Strings -/

def isSpace (c : Char) : Bool := c = ' ' || c = '\t' || c = '\n' || c = '\r'

def skip (t : List Char) : List Char := t.dropWhile isSpace

/-- The character after a backslash, other than `u`. -/
def unescape : Char → Option ℕ
  | '"' => some 0x22
  | '\\' => some 0x5c
  | '/' => some 0x2f
  | 'b' => some 0x08
  | 'f' => some 0x0c
  | 'n' => some 0x0a
  | 'r' => some 0x0d
  | 't' => some 0x09
  | _ => none

def hex (c : Char) : Option ℕ :=
  if '0' ≤ c ∧ c ≤ '9' then some (c.toNat - '0'.toNat)
  else if 'a' ≤ c ∧ c ≤ 'f' then some (c.toNat - 'a'.toNat + 10)
  else if 'A' ≤ c ∧ c ≤ 'F' then some (c.toNat - 'A'.toNat + 10)
  else none

/-- The units of a string after its opening quote, and what follows its closing quote. -/
def scan : List Char → Option (List ℕ × List Char)
  | [] => none
  | '"' :: t => some ([], t)
  | '\\' :: 'u' :: a :: b :: c :: d :: t =>
    match hex a, hex b, hex c, hex d with
    | some a, some b, some c, some d =>
      (scan t).map fun r => ((4096 * a + 256 * b + 16 * c + d) :: r.1, r.2)
    | _, _, _, _ => none
  | '\\' :: c :: t => (unescape c).bind fun n => (scan t).map fun r => (n :: r.1, r.2)
  | c :: t => if 32 ≤ c.toNat then (scan t).map fun r => (units c ++ r.1, r.2) else none

/-- The text after white space, without its first character, if this is `c`. -/
def expect (c : Char) (t : List Char) : Option (List Char) :=
  match skip t with
  | [] => none
  | d :: t => if d = c then some t else none

/-! ## Numbers -/

def isDigit (c : Char) : Bool := '0' ≤ c && c ≤ '9'

def natOf (digits : List Char) : ℕ := digits.foldl (fun n c => 10 * n + (c.toNat - '0'.toNat)) 0

/-- The digits a text begins with, at least one, and what follows them. -/
def digits (t : List Char) : Option (List Char × List Char) :=
  if t.takeWhile isDigit = [] then none else some (t.takeWhile isDigit, t.dropWhile isDigit)

/-- The digits behind a point. -/
def fraction : List Char → Option (List Char × List Char)
  | '.' :: t => digits t
  | t => some ([], t)

/-- An exponent. -/
def scientific : List Char → Option (ℤ × List Char)
  | [] => some (0, [])
  | c :: t =>
    if c = 'e' ∨ c = 'E' then
      match t with
      | '-' :: t => (digits t).map fun r => (-(natOf r.1 : ℤ), r.2)
      | '+' :: t => (digits t).map fun r => ((natOf r.1 : ℤ), r.2)
      | t => (digits t).map fun r => ((natOf r.1 : ℤ), r.2)
    else some (0, c :: t)

/-- A number without its sign: its digits, with the exponent that puts the point where it is. -/
def decimal (t : List Char) : Option ((ℕ × ℤ) × List Char) := do
  let (whole, t) ← digits t
  -- the first digit of several is no zero
  if 1 < whole.length ∧ whole.head? = some '0' then none
  else
    let (frac, t) ← fraction t
    let (e, t) ← scientific t
    return ((natOf (whole ++ frac), e - frac.length), t)

/-! ## Values -/

section Parse

variable {N : Type} (number : Bool → ℕ → ℤ → N)

/-- What is neither a string nor put together of other values. -/
def scalar : List Char → Option (Json N × List Char)
  | 'n' :: 'u' :: 'l' :: 'l' :: t => some (.null, t)
  | 't' :: 'r' :: 'u' :: 'e' :: t => some (.bool true, t)
  | 'f' :: 'a' :: 'l' :: 's' :: 'e' :: t => some (.bool false, t)
  | '-' :: t => (decimal t).map fun r => (.number (number true r.1.1 r.1.2), r.2)
  | t => (decimal t).map fun r => (.number (number false r.1.1 r.1.2), r.2)

/-- A property gets a value; the last one that it is given stays. -/
def assign (fields : List (String × Json N)) (member : String × Json N) : List (String × Json N) :=
  match fields with
  | [] => [member]
  | field :: fields =>
    if field.1 = member.1 then member :: fields else field :: assign fields member

mutual

/-- A value, and what follows it. The fuel bounds how deep values are nested and how many there
are next to each other. -/
def value : ℕ → List Char → Option (Json N × List Char)
  | 0, _ => none
  | fuel + 1, t =>
    match skip t with
    | '"' :: t => (scan t).map fun r => (.string (String.ofList (decode r.1)), r.2)
    | '[' :: t =>
      match expect ']' t with
      | some t => some (.array [], t)
      | none => (items fuel t).map fun r => (.array r.1, r.2)
    | '{' :: t =>
      match expect '}' t with
      | some t => some (.object [], t)
      | none => (members fuel t).map fun r => (.object (r.1.foldl assign []), r.2)
    | t => scalar number t

/-- The items of an array, and what follows its closing bracket. -/
def items : ℕ → List Char → Option (List (Json N) × List Char)
  | 0, _ => none
  | fuel + 1, t => do
    let (item, t) ← value fuel t
    match skip t with
    | ',' :: t => do
      let (rest, t) ← items fuel t
      return (item :: rest, t)
    | ']' :: t => return ([item], t)
    | _ => none

/-- The members of an object, and what follows its closing brace. -/
def members : ℕ → List Char → Option (List (String × Json N) × List Char)
  | 0, _ => none
  | fuel + 1, t => do
    let t ← expect '"' t
    let (name, t) ← scan t
    let t ← expect ':' t
    let (v, t) ← value fuel t
    let member := (String.ofList (decode name), v)
    match skip t with
    | ',' :: t => do
      let (rest, t) ← members fuel t
      return (member :: rest, t)
    | '}' :: t => return ([member], t)
    | _ => none

end

/-- The value a text stands for; `none` where `JSON.parse` throws. The fuel does not run out
(`value_fuel`). -/
def parse (t : List Char) : Option (Json N) :=
  match value number (2 * t.length + 2) t with
  | none => none
  | some (v, t) => if skip t = [] then some v else none

end Parse

/-! ## Strings that are read back -/

theorem scan_cons {c : Char} (h : Literal c) (t : List Char) :
    scan (c :: t) = (scan t).map fun r => (units c ++ r.1, r.2) := by
  obtain ⟨h32, hq, hb⟩ := h
  rw [scan.eq_def]
  split
  · simp_all
  · simp_all
  · simp_all
  · simp_all
  · rename_i heq
    obtain ⟨rfl, rfl⟩ := List.cons.inj heq
    exact if_pos h32

/-- What needs no escape is read up to the closing quote. -/
theorem scan_literal {s : List Char} (hs : ∀ c ∈ s, Literal c) (t : List Char) :
    scan (s ++ '"' :: t) = some (encode s, t) := by
  induction s with
  | nil => rfl
  | cons c s ih =>
    rw [List.cons_append, scan_cons (hs c List.mem_cons_self),
      ih fun d hd => hs d (List.mem_cons_of_mem _ hd), encode_cons]
    rfl

theorem hex_digitChar {d : ℕ} (h : d < 16) : hex (Nat.digitChar d) = some d := by
  have hall : ∀ d < 16, hex (Nat.digitChar d) = some d := by decide
  exact hall d h

/-- The four digits of a control character. -/
theorem scan_hex4 {n : ℕ} (h : n < 256) (t : List Char) :
    scan ('\\' :: 'u' :: (hex4 n ++ t)) = (scan t).map fun r => (n :: r.1, r.2) := by
  have hzero : hex '0' = some 0 := rfl
  have hhigh : hex (Nat.digitChar (n / 16)) = some (n / 16) := hex_digitChar (by omega)
  have hlow : hex (Nat.digitChar (n % 16)) = some (n % 16) := hex_digitChar (by omega)
  have hsum : 4096 * 0 + 256 * 0 + 16 * (n / 16) + n % 16 = n := by omega
  simp only [hex4, List.cons_append, List.nil_append, scan, hzero, hhigh, hlow, hsum]

theorem units_of_lt {c : Char} {n : ℕ} (h : c.toNat = n) (hn : n < 0x10000) : units c = [n] := by
  rw [units, h, if_pos hn]

/-- A character that needs an escape is read back. -/
theorem scan_escape_cons (c : Char) (t : List Char) :
    scan (escape c ++ t) = (scan t).map fun r => (units c ++ r.1, r.2) := by
  unfold escape
  split
  case h_1 h =>
    rw [units_of_lt h (by omega)]
    rfl
  case h_2 h =>
    rw [units_of_lt h (by omega)]
    rfl
  case h_3 h =>
    rw [units_of_lt h (by omega)]
    rfl
  case h_4 h =>
    rw [units_of_lt h (by omega)]
    rfl
  case h_5 h =>
    rw [units_of_lt h (by omega)]
    rfl
  case h_6 h =>
    rw [units_of_lt h (by omega)]
    rfl
  case h_7 h =>
    rw [units_of_lt h (by omega)]
    rfl
  case h_8 hq hb _ _ _ _ _ =>
    split_ifs with h32
    · rw [List.cons_append, List.cons_append, scan_hex4 (by omega), units_of_lt rfl (by omega)]
      rfl
    · apply scan_cons
      refine ⟨by omega, ?_, ?_⟩
      · rintro rfl
        exact hq rfl
      · rintro rfl
        exact hb rfl

/-- **A quoted text is read back.** -/
theorem scan_flatMap_escape (s t : List Char) :
    scan (s.flatMap escape ++ '"' :: t) = some (encode s, t) := by
  induction s with
  | nil => rfl
  | cons c s ih =>
    rw [List.flatMap_cons, List.append_assoc, scan_escape_cons, ih, encode_cons]
    rfl

/-! ## How long a text is -/

theorem length_decode_cons (n : ℕ) (v : List ℕ) :
    (decode (n :: v)).length ≤ (decode v).length + 1 := by
  cases v with
  | nil => exact le_rfl
  | cons m v =>
    rw [decode]
    split_ifs with hpair
    · -- a low surrogate of its own is not the first of a pair
      have hnot : ∀ k, ¬ (High m ∧ Low k) := by
        intro k h
        unfold High Low at *
        omega
      have hdecode : (decode (m :: v)).length = (decode v).length + 1 := by
        cases v with
        | nil => rfl
        | cons k v => rw [decode, if_neg (hnot k), List.length_cons]
      rw [hdecode, List.length_cons]
      omega
    · exact le_rfl

/-- A string is no longer than the text it is read from; if it is as long, nothing in it is
escaped. -/
theorem scan_length {u t : List Char} {v : List ℕ} (h : scan u = some (v, t)) :
    (decode v).length + t.length < u.length ∧
      (u.length = (decode v).length + t.length + 1 → ∀ c ∈ decode v, Literal c) := by
  fun_induction scan u generalizing v t with
  | case1 => simp at h
  | case2 t' =>
    obtain ⟨rfl, rfl⟩ := Prod.mk.inj (Option.some.inj h)
    exact ⟨by simp [decode], fun _ => by simp [decode]⟩
  | case3 a b c d t' i j k l _ _ _ _ ih =>
    obtain ⟨r, hr, heq⟩ := Option.map_eq_some_iff.mp h
    obtain ⟨rfl, rfl⟩ := Prod.mk.inj heq
    have hlt := (ih hr).1
    have hcons := length_decode_cons (4096 * i + 256 * j + 16 * k + l) r.1
    simp only [List.length_cons]
    exact ⟨by omega, fun h => by omega⟩
  | case4 => simp at h
  | case5 c t' _ ih =>
    obtain ⟨n, -, hmap⟩ := Option.bind_eq_some_iff.mp h
    obtain ⟨r, hr, heq⟩ := Option.map_eq_some_iff.mp hmap
    obtain ⟨rfl, rfl⟩ := Prod.mk.inj heq
    have hlt := (ih hr).1
    have hcons := length_decode_cons n r.1
    simp only [List.length_cons]
    exact ⟨by omega, fun h => by omega⟩
  | case6 c t' hq _ hb h32 ih =>
    obtain ⟨r, hr, heq⟩ := Option.map_eq_some_iff.mp h
    obtain ⟨rfl, rfl⟩ := Prod.mk.inj heq
    obtain ⟨hlt, hliteral⟩ := ih hr
    simp only [decode_units, List.length_cons]
    refine ⟨by omega, fun hlength => ?_⟩
    have hc : Literal c := by
      refine ⟨h32, hq, ?_⟩
      rintro rfl
      cases t' with
      | nil => simp [scan] at hr
      | cons d t' => exact hb d t' rfl rfl
    exact List.forall_mem_cons.mpr ⟨hc, hliteral (by omega)⟩
  | case7 => simp at h

theorem length_skip_le (t : List Char) : (skip t).length ≤ t.length := List.length_dropWhile_le _ _

theorem expect_length {c : Char} {t u : List Char} (h : expect c t = some u) :
    u.length < t.length := by
  have hle := length_skip_le t
  unfold expect at h
  split at h
  · simp at h
  · rename_i d v hskip
    split_ifs at h
    obtain rfl := Option.some.inj h
    rw [hskip, List.length_cons] at hle
    omega

theorem digits_length {t : List Char} {r : List Char × List Char} (h : digits t = some r) :
    r.2.length ≤ t.length := by
  unfold digits at h
  split_ifs at h
  obtain rfl := Option.some.inj h
  exact List.length_dropWhile_le _ _

theorem fraction_length {t : List Char} {r : List Char × List Char} (h : fraction t = some r) :
    r.2.length ≤ t.length := by
  unfold fraction at h
  split at h
  · exact (digits_length h).trans (Nat.le_succ _)
  · obtain rfl := Option.some.inj h
    exact le_rfl

theorem scientific_length {t : List Char} {r : ℤ × List Char} (h : scientific t = some r) :
    r.2.length ≤ t.length := by
  unfold scientific at h
  split at h
  · obtain rfl := Option.some.inj h
    exact le_rfl
  · split_ifs at h
    · split at h
      all_goals
        obtain ⟨q, hq, rfl⟩ := Option.map_eq_some_iff.mp h
        have hlength := digits_length hq
        simp only [List.length_cons]
        omega
    · obtain rfl := Option.some.inj h
      exact le_rfl

theorem decimal_length {t : List Char} {r : (ℕ × ℤ) × List Char} (h : decimal t = some r) :
    r.2.length ≤ t.length := by
  simp only [decimal, Option.bind_eq_bind, Option.bind_eq_some_iff] at h
  obtain ⟨q, hwhole, h⟩ := h
  split_ifs at h
  obtain ⟨q', hfrac, h⟩ := Option.bind_eq_some_iff.mp h
  obtain ⟨q'', hexp, h⟩ := Option.bind_eq_some_iff.mp h
  obtain rfl := Option.some.inj h
  exact (scientific_length hexp).trans ((fraction_length hfrac).trans (digits_length hwhole))

section Parse

variable {N : Type} {number : Bool → ℕ → ℤ → N}

theorem scalar_length {t : List Char} {r : Json N × List Char} (h : scalar number t = some r) :
    r.2.length ≤ t.length ∧ ∀ s, r.1 ≠ .string s := by
  unfold scalar at h
  split at h
  case h_4 =>
    obtain ⟨q, hq, rfl⟩ := Option.map_eq_some_iff.mp h
    exact ⟨(decimal_length hq).trans (Nat.le_succ _), by simp⟩
  case h_5 =>
    obtain ⟨q, hq, rfl⟩ := Option.map_eq_some_iff.mp h
    exact ⟨decimal_length hq, by simp⟩
  all_goals
    obtain rfl := Option.some.inj h
    refine ⟨?_, by simp⟩
    simp only [List.length_cons]
    omega

/-- What the items of an array are read from. -/
theorem items_cases {fuel : ℕ} {t r : List Char} {vs : List (Json N)}
    (h : items number (fuel + 1) t = some (vs, r)) :
    ∃ v u, value number fuel t = some (v, u) ∧
      (r.length ≤ u.length ∨
        ∃ rest w, w.length ≤ u.length ∧ items number fuel w = some (rest, r)) := by
  simp only [items, Option.bind_eq_bind, Option.bind_eq_some_iff] at h
  obtain ⟨⟨v, u⟩, hvalue, h⟩ := h
  have hle := length_skip_le u
  refine ⟨v, u, hvalue, ?_⟩
  dsimp only at h
  split at h
  · rename_i w hskip
    obtain ⟨⟨rest, r'⟩, hrest, heq⟩ := Option.bind_eq_some_iff.mp h
    obtain ⟨-, rfl⟩ := Prod.mk.inj (Option.some.inj heq)
    rw [hskip, List.length_cons] at hle
    exact Or.inr ⟨rest, w, by omega, hrest⟩
  · rename_i w hskip
    obtain ⟨-, rfl⟩ := Prod.mk.inj (Option.some.inj h)
    rw [hskip, List.length_cons] at hle
    exact Or.inl (by omega)
  · simp at h

/-- What the members of an object are read from. -/
theorem members_cases {fuel : ℕ} {t r : List Char} {ms : List (String × Json N)}
    (h : members number (fuel + 1) t = some (ms, r)) :
    ∃ name v rest u w, ms = (name, v) :: rest ∧ u.length ≤ t.length ∧
      value number fuel u = some (v, w) ∧
      (rest = [] ∧ r.length ≤ w.length ∨
        ∃ w', w'.length ≤ w.length ∧ members number fuel w' = some (rest, r)) := by
  simp only [members, Option.bind_eq_bind, Option.bind_eq_some_iff] at h
  obtain ⟨t₁, hquote, ⟨name, t₂⟩, hname, u, hcolon, ⟨v, w⟩, hvalue, h⟩ := h
  have hle := length_skip_le w
  have hu : u.length ≤ t.length := by
    have h₁ := expect_length hquote
    have h₂ := (scan_length hname).1
    have h₃ := expect_length hcolon
    dsimp only at h₃
    omega
  dsimp only at h
  split at h
  · rename_i w' hskip
    obtain ⟨⟨rest, r'⟩, hrest, heq⟩ := Option.bind_eq_some_iff.mp h
    obtain ⟨rfl, rfl⟩ := Prod.mk.inj (Option.some.inj heq)
    rw [hskip, List.length_cons] at hle
    exact ⟨_, v, rest, u, w, rfl, hu, hvalue, Or.inr ⟨w', by omega, hrest⟩⟩
  · rename_i w' hskip
    obtain ⟨rfl, rfl⟩ := Prod.mk.inj (Option.some.inj h)
    rw [hskip, List.length_cons] at hle
    exact ⟨_, v, [], u, w, rfl, hu, hvalue, Or.inl ⟨rfl, by omega⟩⟩
  · simp at h

/-- What is left is no longer than what has been read from. -/
theorem rest_length (fuel : ℕ) :
    (∀ t v r, value number fuel t = some (v, r) → r.length ≤ t.length) ∧
      (∀ t vs r, items number fuel t = some (vs, r) → r.length ≤ t.length) ∧
      ∀ t ms r, members number fuel t = some (ms, r) → r.length ≤ t.length := by
  induction fuel with
  | zero => simp [value, items, members]
  | succ fuel ih =>
    obtain ⟨ihvalue, ihitems, ihmembers⟩ := ih
    refine ⟨?_, ?_, ?_⟩
    · intro t v r h
      have hle := length_skip_le t
      rw [value] at h
      split at h
      · rename_i u hskip
        obtain ⟨q, hq, heq⟩ := Option.map_eq_some_iff.mp h
        obtain ⟨-, rfl⟩ := Prod.mk.inj heq
        have hlength := (scan_length hq).1
        rw [hskip, List.length_cons] at hle
        omega
      · rename_i u hskip
        rw [hskip, List.length_cons] at hle
        split at h
        · rename_i w hclose
          obtain ⟨-, rfl⟩ := Prod.mk.inj (Option.some.inj h)
          have hlength := expect_length hclose
          omega
        · obtain ⟨q, hq, heq⟩ := Option.map_eq_some_iff.mp h
          obtain ⟨-, rfl⟩ := Prod.mk.inj heq
          have hlength := ihitems _ _ _ hq
          omega
      · rename_i u hskip
        rw [hskip, List.length_cons] at hle
        split at h
        · rename_i w hclose
          obtain ⟨-, rfl⟩ := Prod.mk.inj (Option.some.inj h)
          have hlength := expect_length hclose
          omega
        · obtain ⟨q, hq, heq⟩ := Option.map_eq_some_iff.mp h
          obtain ⟨-, rfl⟩ := Prod.mk.inj heq
          have hlength := ihmembers _ _ _ hq
          omega
      · exact (scalar_length h).1.trans hle
    · intro t vs r h
      obtain ⟨v, u, hvalue, hrest⟩ := items_cases h
      have hu := ihvalue t v u hvalue
      rcases hrest with hr | ⟨rest, w, hw, hrest⟩
      · exact hr.trans hu
      · exact (ihitems w rest r hrest).trans (hw.trans hu)
    · intro t ms r h
      obtain ⟨name, v, rest, u, w, -, hu, hvalue, hrest⟩ := members_cases h
      have hw := ihvalue u v w hvalue
      rcases hrest with ⟨-, hr⟩ | ⟨w', hw', hrest⟩
      · exact hr.trans (hw.trans hu)
      · exact (ihmembers w' rest r hrest).trans (hw'.trans (hw.trans hu))

/-- **Enough fuel is as good as more.** -/
theorem fuel_enough (fuel : ℕ) :
    (∀ more t, fuel ≤ more → 2 * t.length + 1 ≤ fuel →
        value number fuel t = value number more t) ∧
      (∀ more t, fuel ≤ more → 2 * t.length + 2 ≤ fuel →
        items number fuel t = items number more t) ∧
      ∀ more t, fuel ≤ more → 2 * t.length + 2 ≤ fuel →
        members number fuel t = members number more t := by
  induction fuel with
  | zero =>
    refine ⟨?_, ?_, ?_⟩
    all_goals
      intro more t _ h
      omega
  | succ fuel ih =>
    obtain ⟨ihvalue, ihitems, ihmembers⟩ := ih
    refine ⟨?_, ?_, ?_⟩
    all_goals
      intro more t hmore hfuel
      obtain ⟨more, rfl⟩ := Nat.exists_eq_add_of_le' (Nat.one_le_of_lt hmore)
    · have hle := length_skip_le t
      rw [value, value]
      split
      · rfl
      · rename_i u hskip
        rw [hskip, List.length_cons] at hle
        rw [ihitems more u (by omega) (by omega)]
      · rename_i u hskip
        rw [hskip, List.length_cons] at hle
        rw [ihmembers more u (by omega) (by omega)]
      · rfl
    · rw [items, items, ihvalue more t (by omega) (by omega)]
      apply Option.bind_congr
      rintro ⟨v, u⟩ hvalue
      have hu := (rest_length more).1 t v u hvalue
      have hle := length_skip_le u
      dsimp only
      split
      · rename_i w hskip
        rw [hskip, List.length_cons] at hle
        rw [ihitems more w (by omega) (by omega)]
      · rfl
      · rfl
    · rw [members, members]
      apply Option.bind_congr
      intro t₁ hquote
      apply Option.bind_congr
      rintro ⟨name, t₂⟩ hname
      apply Option.bind_congr
      intro t₃ hcolon
      have hlt : t₃.length < t.length := by
        have h₁ := expect_length hquote
        have h₂ := (scan_length hname).1
        have h₃ := expect_length hcolon
        omega
      rw [ihvalue more t₃ (by omega) (by omega)]
      apply Option.bind_congr
      rintro ⟨v, u⟩ hvalue
      have hu := (rest_length more).1 t₃ v u hvalue
      have hle := length_skip_le u
      dsimp only
      split
      · rename_i w hskip
        rw [hskip, List.length_cons] at hle
        rw [ihmembers more w (by omega) (by omega)]
      · rfl
      · rfl

/-- `JSON.parse` is given fuel enough. -/
theorem value_fuel (more : ℕ) (t : List Char) :
    value number (2 * t.length + 2 + more) t = value number (2 * t.length + 2) t :=
  ((fuel_enough (2 * t.length + 2)).1 _ t (by omega) (by omega)).symm

/-- A value that is a string is shorter than what it is read from. -/
theorem value_string_length {fuel : ℕ} {t r : List Char} {s : String}
    (h : value number fuel t = some (.string s, r)) : s.toList.length < t.length := by
  have hle := length_skip_le t
  cases fuel with
  | zero => simp [value] at h
  | succ fuel =>
    rw [value] at h
    split at h
    · rename_i u hskip
      obtain ⟨q, hq, heq⟩ := Option.map_eq_some_iff.mp h
      obtain ⟨hs, rfl⟩ := Prod.mk.inj heq
      obtain rfl := Json.string.inj hs
      have hlength := (scan_length hq).1
      rw [hskip, List.length_cons] at hle
      rw [String.toList_ofList]
      omega
    · split at h
      · simp at h
      · simp at h
    · split at h
      · simp at h
      · simp at h
    · exact absurd rfl ((scalar_length h).2 s)

/-- So is a string among the members of an object. -/
theorem members_string_length {fuel : ℕ} {t r : List Char} {ms : List (String × Json N)}
    (h : members number fuel t = some (ms, r)) {name s : String} (hs : (name, .string s) ∈ ms) :
    s.toList.length < t.length := by
  induction fuel generalizing t ms with
  | zero => simp [members] at h
  | succ fuel ih =>
    obtain ⟨name', v, rest, u, w, rfl, hu, hvalue, hrest⟩ := members_cases h
    rcases List.mem_cons.mp hs with heq | hs
    · obtain ⟨rfl, rfl⟩ := Prod.mk.inj heq
      exact (value_string_length hvalue).trans_le hu
    · rcases hrest with ⟨rfl, -⟩ | ⟨w', hw', hrest⟩
      · simp at hs
      · have hw := (rest_length fuel).1 u v w hvalue
        exact (ih hrest hs).trans_le (hw'.trans (hw.trans hu))

/-! ## Objects -/

/-- What a property has been given is a member's value. -/
theorem mem_of_mem_assign {fields ms : List (String × Json N)} {f : String × Json N}
    (h : f ∈ ms.foldl assign fields) : f ∈ fields ∨ f ∈ ms := by
  have hassign : ∀ (fields : List (String × Json N)) (m : String × Json N), f ∈ assign fields m →
      f ∈ fields ∨ f = m := by
    intro fields m
    induction fields with
    | nil => exact fun h => Or.inr (List.mem_singleton.mp h)
    | cons field fields ih =>
      intro h
      unfold assign at h
      split_ifs at h
      · rcases List.mem_cons.mp h with h | h
        · exact Or.inr h
        · exact Or.inl (List.mem_cons_of_mem _ h)
      · rcases List.mem_cons.mp h with h | h
        · exact Or.inl (List.mem_cons.mpr (Or.inl h))
        · exact (ih h).imp_left (List.mem_cons_of_mem _)
  induction ms generalizing fields with
  | nil => exact Or.inl h
  | cons m ms ih =>
    rcases ih h with h | h
    · rcases hassign fields m h with h | rfl
      · exact Or.inl h
      · exact Or.inr List.mem_cons_self
    · exact Or.inr (List.mem_cons_of_mem _ h)

/-- Two properties of different names. -/
theorem foldl_assign_two {name name' : String} (hne : name ≠ name') (v v' : Json N) :
    [(name, v), (name', v')].foldl assign [] = [(name, v), (name', v')] := by
  change assign [(name, v)] (name', v') = _
  rw [assign, if_neg hne]
  rfl

theorem expect_self {c : Char} (hc : isSpace c = false) (t : List Char) :
    expect c (c :: t) = some t := by
  rw [expect, skip, List.dropWhile_cons, hc]
  exact if_pos rfl

/-- A member with a string, up to which nothing is escaped. -/
theorem members_key {name : List Char} (hname : ∀ c ∈ name, Literal c) (fuel : ℕ)
    (u : List Char) :
    members number (fuel + 2) ('"' :: (name ++ '"' :: ':' :: '"' :: u)) = (scan u).bind fun r =>
      match skip r.2 with
      | ',' :: t => (members number (fuel + 1) t).map fun q =>
          ((String.ofList name, .string (String.ofList (decode r.1))) :: q.1, q.2)
      | '}' :: t =>
        some ([(String.ofList name, .string (String.ofList (decode r.1)))], t)
      | _ => none := by
  have hquote := expect_self (c := '"') rfl
  have hcolon := expect_self (c := ':') rfl
  have hskip : skip ('"' :: u) = '"' :: u := rfl
  have hvalue : value number (fuel + 1) ('"' :: u)
      = (scan u).map fun r => (.string (String.ofList (decode r.1)), r.2) := by
    rw [value, hskip]
    rfl
  rw [members, Option.bind_eq_bind, hquote, Option.bind_some, Option.bind_eq_bind,
    scan_literal hname, Option.bind_some]
  dsimp only
  rw [Option.bind_eq_bind, hcolon, Option.bind_some, Option.bind_eq_bind, hvalue,
    Option.bind_map, decode_encode]
  apply Option.bind_congr
  intro r _
  dsimp only [Function.comp_apply]
  split
  · cases members number (fuel + 1) _ with
    | none => rfl
    | some q => rfl
  · rfl
  · rfl

/-- The last member. -/
theorem members_last {name u t v : List Char} (hname : ∀ c ∈ name, Literal c)
    (hu : scan u = some (encode v, '}' :: t)) (fuel : ℕ) :
    members number (fuel + 2) ('"' :: (name ++ '"' :: ':' :: '"' :: u))
      = some ([(String.ofList name, .string (String.ofList v))], t) := by
  have hbrace : skip ('}' :: t) = '}' :: t := rfl
  rw [members_key hname, hu, Option.bind_some, decode_encode, hbrace]
  rfl

theorem members_space (fuel : ℕ) (t : List Char) :
    members number (fuel + 1) (' ' :: t) = members number (fuel + 1) t := by
  have hskip : skip (' ' :: t) = skip t := rfl
  simp only [members, expect, hskip]

/-- An object whose first member is given. -/
theorem parse_object (t : List Char) :
    parse number ('{' :: '"' :: t) = (members number (2 * t.length + 5) ('"' :: t)).bind fun r =>
      if skip r.2 = [] then some (.object (r.1.foldl assign [])) else none := by
  have hskip : skip ('{' :: '"' :: t) = '{' :: '"' :: t := rfl
  have hfuel : 2 * ('{' :: '"' :: t).length + 2 = 2 * t.length + 5 + 1 := by
    simp only [List.length_cons]
    omega
  have hvalue : value number (2 * t.length + 5 + 1) ('{' :: '"' :: t)
      = (members number (2 * t.length + 5) ('"' :: t)).map fun r =>
        (.object (r.1.foldl assign []), r.2) := by
    rw [value, hskip]
    rfl
  unfold parse
  rw [hfuel, hvalue]
  cases members number (2 * t.length + 5) ('"' :: t) with
  | none => rfl
  | some r => rfl

/-- An object whose first member is a string that can be read, and what is left of it. -/
theorem parse_first {name q v : List Char} (hname : ∀ c ∈ name, Literal c)
    (hq : ∀ t, scan (q ++ '"' :: t) = some (encode v, t)) (rest : List Char) :
    ∃ fuel, parse number ('{' :: '"' :: (name ++ '"' :: ':' :: '"' :: (q ++ '"' :: ',' :: rest)))
      = (members number (fuel + 2) rest).bind fun r => if skip r.2 = [] then
          some (.object (((String.ofList name, .string (String.ofList v)) :: r.1).foldl assign []))
        else none := by
  have hcomma : skip (',' :: rest) = ',' :: rest := rfl
  have hfuel (n : ℕ) : 2 * n + 5 = (2 * n + 3) + 2 := rfl
  refine ⟨2 * (name ++ '"' :: ':' :: '"' :: (q ++ '"' :: ',' :: rest)).length + 2, ?_⟩
  rw [parse_object, hfuel, members_key hname, hq, Option.bind_some, decode_encode,
    hcomma]
  exact Option.bind_map ..

end Parse

end Js
