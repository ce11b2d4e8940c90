/-
What JavaScript does with values that come from JSON: reading a property, the tests of `if`
and of `== ''`, `split`, and `JSON.stringify`.

A value is a `Json` or `undefined`. Where JavaScript throws, the result is `none`. Objects
are those of a parser: their properties are their own, none of them is a function, and the
names asked for are none of those that strings, arrays or numbers have. Numbers are a
parameter, with their texts and with which of them are zero.
-/
import SmartBike.Lib.Json
import Mathlib.Data.List.Basic

set_option autoImplicit false

namespace Js

/-- What is asked of numbers: how they are shown, what `JSON.stringify` writes of them, and which
are zero. -/
structure Numbers (N : Type*) where
  text : N → List Char
  json : N → List Char
  isZero : N → Bool

/-- A value; `none` is `undefined`. -/
abbrev Value (N : Type*) := Option (Json N)

variable {N : Type*}

/-! ## Properties -/

/-- `v[name]`, which throws on `null` and on `undefined`. -/
def prop (v : Value N) (name : String) : Option (Value N) :=
  match v with
  | none => none
  | some .null => none
  | some (.object fields) => some (fields.lookup name)
  | some _ => some none

/-- `v == null`. -/
def isNull : Value N → Bool
  | none => true
  | some .null => true
  | _ => false

/-- `v.split(c)`, which only strings have. -/
def split (c : Char) : Value N → Option (List (List Char))
  | some (.string s) => some (s.toList.splitOn c)
  | _ => none

/-- The property, or `undefined` where there is none or it throws. -/
def field (v : Value N) (name : String) : Value N := (prop v name).getD none

section Numbers

variable (num : Numbers N)

/-- The test of an `if`. -/
def truthy : Value N → Bool
  | none => false
  | some .null => false
  | some (.bool b) => b
  | some (.number n) => !num.isZero n
  | some (.string s) => s ≠ ""
  | some (.array _) => true
  | some (.object _) => true

mutual

/-- `String(v)`. An object that has a property `toString` of its own has no text. -/
def str : Json N → Option (List Char)
  | .null => some "null".toList
  | .bool b => some (if b then "true".toList else "false".toList)
  | .number n => some (num.text n)
  | .string s => some s.toList
  | .array items => strItems items
  | .object fields =>
    if (fields.lookup "toString").isSome then none else some "[object Object]".toList

/-- The texts of the items of an array with commas in between, where `null` has none. -/
def strItems : List (Json N) → Option (List Char)
  | [] => some []
  | [item] => strItem item
  | item :: items => do
    let s ← strItem item
    let t ← strItems items
    return s ++ ',' :: t

def strItem : Json N → Option (List Char)
  | .null => some []
  | .bool b => some (if b then "true".toList else "false".toList)
  | .number n => some (num.text n)
  | .string s => some s.toList
  | .array items => strItems items
  | .object fields =>
    if (fields.lookup "toString").isSome then none else some "[object Object]".toList

end

/-- `String(v)` of what may be `undefined`. -/
def text : Value N → Option (List Char)
  | none => some "undefined".toList
  | some v => str num v

/-- `v == ''`. -/
def looseEmpty : Value N → Option Bool
  | none => some false
  | some .null => some false
  | some (.bool b) => some (!b)
  | some (.number n) => some (num.isZero n)
  | some (.string s) => some (s = "")
  | some (.array items) => (str num (.array items)).map (· = [])
  | some (.object fields) => (str num (.object fields)).map (· = [])

/-! ## `JSON.stringify` -/

/-- The lower case hexadecimal digits of a control character. -/
def hex4 (n : ℕ) : List Char := ['0', '0', Nat.digitChar (n / 16), Nat.digitChar (n % 16)]

/-- A character in a quoted string. -/
def escape (c : Char) : List Char :=
  match c.toNat with
  | 0x22 => ['\\', '"']
  | 0x5c => ['\\', '\\']
  | 0x08 => ['\\', 'b']
  | 0x09 => ['\\', 't']
  | 0x0a => ['\\', 'n']
  | 0x0c => ['\\', 'f']
  | 0x0d => ['\\', 'r']
  | n => if n < 32 then '\\' :: 'u' :: hex4 n else [c]

def quote (s : List Char) : List Char := '"' :: (s.flatMap escape ++ ['"'])

mutual

def stringify : Json N → List Char
  | .null => "null".toList
  | .bool b => if b then "true".toList else "false".toList
  | .number n => num.json n
  | .string s => quote s.toList
  | .array items => '[' :: ([','].intercalate (stringifyItems items) ++ [']'])
  | .object fields => '{' :: ([','].intercalate (stringifyFields fields) ++ ['}'])

def stringifyItems : List (Json N) → List (List Char)
  | [] => []
  | item :: items => stringify item :: stringifyItems items

def stringifyFields : List (String × Json N) → List (List Char)
  | [] => []
  | (name, value) :: fields => (quote name.toList ++ ':' :: stringify value) :: stringifyFields fields

end

/-- An object made property by property: those that are `undefined` are not written. -/
def defined (fields : List (String × Value N)) : List (String × Json N) :=
  fields.filterMap fun f => f.2.map fun v => (f.1, v)

end Numbers

/-! ## Rules -/

@[simp] theorem prop_object (fields : List (String × Json N)) (name : String) :
    prop (some (.object fields)) name = some (fields.lookup name) := rfl

/-- Reading a property throws exactly on `null` and `undefined`. -/
theorem prop_eq (v : Value N) (name : String) :
    prop v name = if isNull v then none else some (field v name) := by
  rcases v with _ | v
  · rfl
  · cases v with
    | null | bool | number | string | array | object => rfl

theorem field_of_isNull {v : Value N} (h : isNull v = true) (name : String) :
    field v name = none := by
  rw [field, prop_eq, if_pos h]
  rfl

theorem not_isNull_of_truthy (num : Numbers N) {v : Value N} (h : truthy num v = true) :
    isNull v = false := by
  rcases v with _ | v
  · simp [truthy] at h
  · cases v with
    | null => simp [truthy] at h
    | bool | number | string | array | object => rfl

theorem looseEmpty_string (num : Numbers N) (s : String) :
    looseEmpty num (some (.string s)) = some (decide (s = "")) := rfl

/-- A character that is quoted as it is. -/
def Literal (c : Char) : Prop := 32 ≤ c.toNat ∧ c ≠ '"' ∧ c ≠ '\\'

instance : DecidablePred Literal := fun _ => inferInstanceAs (Decidable (_ ∧ _))

theorem escape_literal {c : Char} (h : Literal c) : escape c = [c] := by
  obtain ⟨h32, hq, hb⟩ := h
  have hq' : c.toNat ≠ 0x22 := fun h => hq (Char.ext (UInt32.toNat_inj.mp h))
  have hb' : c.toNat ≠ 0x5c := fun h => hb (Char.ext (UInt32.toNat_inj.mp h))
  unfold escape
  split
  all_goals first
    | omega
    | rw [if_neg (by omega)]

/-- A text that is quoted as it is. -/
theorem flatMap_escape {s : List Char} (hs : ∀ c ∈ s, Literal c) : s.flatMap escape = s := by
  induction s with
  | nil => rfl
  | cons c s ih =>
    rw [List.flatMap_cons, escape_literal (hs c List.mem_cons_self),
      ih fun d hd => hs d (List.mem_cons_of_mem _ hd)]
    rfl

/-- Every other character has a backslash. -/
theorem backslash_mem_escape {c : Char} (h : ¬ Literal c) : '\\' ∈ escape c := by
  unfold escape
  split
  case h_8 hq hb _ _ _ _ _ =>
    have h32 : c.toNat < 32 := by
      by_contra h32
      refine h ⟨by omega, ?_, ?_⟩
      · rintro rfl
        exact hq rfl
      · rintro rfl
        exact hb rfl
    rw [if_pos h32]
    exact List.mem_cons_self
  all_goals exact List.mem_cons_self

end Js
