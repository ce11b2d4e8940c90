/-
JSON values and their accessors, as `org.json` has them.

The accessors throw on a value of another kind, but for `getString`, which makes a text of
whatever it finds: a string is itself, a number is its own text, and the rest is written out
as JSON. Numbers are a parameter, with their texts.
-/
import Mathlib.Data.List.Basic

set_option autoImplicit false

/-- An object has its fields in order, with one value for each name. -/
inductive Json (N : Type*) where
  | null
  | bool (b : Bool)
  | number (n : N)
  | string (s : String)
  | array (items : List (Json N))
  | object (fields : List (String × Json N))

namespace Json

/-- A `JSONArray`. -/
abbrev Items (N : Type*) := List (Json N)

/-- A `JSONObject`. -/
abbrev Fields (N : Type*) := List (String × Json N)

/-- The texts of numbers: `String.valueOf`, and `JSONObject.numberToString`. -/
structure Numerals (N : Type*) where
  valueOf : N → String
  numberToString : N → String

/-! ## Values as texts -/

/-- The hexadecimal digits of a control character. -/
def hex4 (n : ℕ) : List Char :=
  ['0', '0', Nat.digitChar (n / 16), Nat.digitChar (n % 16)]

/-- A character in a quoted string. -/
def escape (c : Char) : List Char :=
  match c.toNat with
  -- the quotation mark, the backslash and the slash
  | 0x22 | 0x5c | 0x2f => [Char.ofNat 0x5c, c]
  | 0x09 => [Char.ofNat 0x5c, 't']
  | 0x08 => [Char.ofNat 0x5c, 'b']
  | 0x0a => [Char.ofNat 0x5c, 'n']
  | 0x0d => [Char.ofNat 0x5c, 'r']
  | 0x0c => [Char.ofNat 0x5c, 'f']
  | n => if n ≤ 0x1f then Char.ofNat 0x5c :: 'u' :: hex4 n else [c]

def quote (s : String) : String :=
  String.ofList (Char.ofNat 0x22 :: s.toList.flatMap escape ++ [Char.ofNat 0x22])

variable {N : Type*} (T : Numerals N)

mutual

/-- The value, written out as JSON. -/
def write : Json N → String
  | .null => "null"
  | .bool b => if b then "true" else "false"
  | .number n => T.numberToString n
  | .string s => quote s
  | .array items => "[" ++ (",".intercalate (writeItems items) ++ "]")
  | .object fields => "\x7b" ++ (",".intercalate (writeFields fields) ++ "\x7d")

def writeItems : List (Json N) → List String
  | [] => []
  | item :: items => write item :: writeItems items

def writeFields : List (String × Json N) → List String
  | [] => []
  | (name, value) :: fields => (quote name ++ ":" ++ write value) :: writeFields fields

end

/-- `JSON.toString`. -/
def text : Json N → String
  | .string s => s
  | .number n => T.valueOf n
  | value => write T value

@[simp] theorem text_string (s : String) : text T (.string s) = s := rfl

@[simp] theorem text_number (n : N) : text T (.number n) = T.valueOf n := rfl

/-- The text of an array begins with its bracket. -/
theorem text_array (items : Items N) : ∃ rest, text T (.array items) = "[" ++ rest := by
  refine ⟨",".intercalate (writeItems T items) ++ "]", ?_⟩
  unfold text write
  rfl

/-! ## Accessors -/

/-- The value as a `JSONObject`. -/
def asObject : Json N → Option (Fields N)
  | .object fields => some fields
  | _ => none

/-- The value as a `JSONArray`. -/
def asArray : Json N → Option (Items N)
  | .array items => some items
  | _ => none

@[simp] theorem asObject_object (fields : Fields N) : asObject (.object fields) = some fields := rfl

@[simp] theorem asArray_array (items : Items N) : asArray (.array items) = some items := rfl

namespace Fields

def getString (fields : Fields N) (name : String) : Option String :=
  (fields.lookup name).map (text T)

def getJSONObject (fields : Fields N) (name : String) : Option (Fields N) :=
  (fields.lookup name).bind asObject

def getJSONArray (fields : Fields N) (name : String) : Option (Items N) :=
  (fields.lookup name).bind asArray

variable {fields : Fields N} {name : String}

theorem getString_of_lookup {value : Json N} (h : fields.lookup name = some value) :
    fields.getString T name = some (text T value) := by
  rw [getString, h, Option.map_some]

theorem getJSONObject_of_lookup {object : Fields N} (h : fields.lookup name = some (.object object)) :
    fields.getJSONObject name = some object := by
  rw [getJSONObject, h, Option.bind_some, asObject_object]

theorem getJSONArray_of_lookup {items : Items N} (h : fields.lookup name = some (.array items)) :
    fields.getJSONArray name = some items := by
  rw [getJSONArray, h, Option.bind_some, asArray_array]

end Fields

/-- `JSONArray.getString`. -/
def Items.getString (items : Items N) (i : ℕ) : Option String := items[i]?.map (text T)

end Json
