/-
The bodies of the gateway's requests: `js2xmlparser`, and what `adn.js` gives to it.

`js2xmlparser` writes an object as an element, an array as one element for each item and
anything else as the text of an element; `adn.js` calls it without options. Whatever the texts
are, the elements it writes are closed in the order in which they are opened (`nest_toXML`), so
no name or content can bring in a tag of its own (`nested_body`).

The length that `adn.js` announces is that of the string, in units of UTF-16. What is written is
UTF-8 (`content_length_iff`).
-/
import SmartBike.Gateway.Setup
import SmartBike.Lib.Markup

set_option autoImplicit false

open Markup

namespace SmartBike.Gateway

/-! ## `js2xmlparser` -/

/-- A value given to `js2xmlparser`. What is neither an object nor an array comes as its text,
which is empty for `null` and `undefined`; the property `@` of an object is its attributes. -/
inductive Data where
  | text (t : Text)
  | object (attributes : List (Text × Text)) (fields : List (Text × Data))
  | array (items : List Data)

namespace Js2xmlparser

/-- `s.replace(/c/gm, t)`. -/
def replace (c : Char) (t s : Text) : Text := s.flatMap fun d => if d = c then t else [d]

/-- `toString`. -/
def toString (data : Text) : Text :=
  replace '\'' "&apos;".toList (replace '"' "&quot;".toList (replace '>' "&gt;".toList
    (replace '<' "&lt;".toList (replace '&' "&amp;".toList data))))

def addIndent (data : Text) (level : ℕ) : Text := List.replicate level '\t' ++ data

def addBreak (data : Text) : Text := data ++ ['\n']

def addAttribute (a : Text × Text) : Text := ' ' :: (a.1 ++ '=' :: '"' :: (toString a.2 ++ ['"']))

def opening (name : Text) : Text := '<' :: (name ++ ['>'])

def closing (name : Text) : Text := '<' :: '/' :: (name ++ ['>'])

mutual

/-- What `toXML` writes for one property. -/
def toXML (level : ℕ) (name : Text) : Data → Text
  | .text t => addBreak (addIndent (opening name ++ (toString t ++ closing name)) level)
  | .object attributes [] =>
    addIndent ('<' :: name) level ++ (attributes.flatMap addAttribute ++ addBreak ['/', '>'])
  | .object attributes (field :: fields) =>
    addIndent ('<' :: name) level ++ (attributes.flatMap addAttribute ++ (addBreak ['>'] ++
      (toXMLFields (level + 1) (field :: fields) ++ addBreak (addIndent (closing name) level))))
  | .array items => toXMLItems level name items

def toXMLItems (level : ℕ) (name : Text) : List Data → Text
  | [] => []
  | item :: items => toXML level name item ++ toXMLItems level name items

def toXMLFields (level : ℕ) : List (Text × Data) → Text
  | [] => []
  | (name, value) :: fields => toXML level name value ++ toXMLFields level fields

end

/-- The white space that `\s` stands for. -/
def isSpace (c : Char) : Bool :=
  c ∈ ['\t', '\n', '\x0b', '\x0c', '\r', ' '] ||
    c.toNat ∈ [0xa0, 0x1680, 0x2028, 0x2029, 0x202f, 0x205f, 0x3000, 0xfeff] ||
    (0x2000 ≤ c.toNat && c.toNat ≤ 0x200a)

/-- `xml.replace(/\s+$/g, "")`. -/
def stripRight (xml : Text) : Text := (xml.reverse.dropWhile isSpace).reverse

def declaration : Text := "<?xml version=\"1.0\" encoding=\"UTF-8\"?>".toList

end Js2xmlparser

/-- `js2xmlparser(root, data)`. -/
def js2xmlparser (root : Text) (data : Data) : Text :=
  Js2xmlparser.addBreak Js2xmlparser.declaration ++
    Js2xmlparser.stripRight (Js2xmlparser.toXML 0 root data)

/-! ## Bodies -/

/-- The attributes that every body has. -/
def xmlns : List (Text × Text) :=
  [("xmlns:m2m".toList, "http://www.onem2m.org/xml/protocols".toList),
    ("xmlns:xsi".toList, "http://www.w3.org/2001/XMLSchema-instance".toList)]

/-- The body of a request that has one, as XML. -/
def AdnRequest.body : AdnRequest → Option Text
  | .crtae _ appname appid =>
    some (js2xmlparser "m2m:ae".toList (.object (xmlns ++ [("rn".toList, appname)])
      [("api".toList, .text appid), ("rr".toList, .text "true".toList)]))
  | .crtct _ ctname =>
    some (js2xmlparser "m2m:cnt".toList (.object (xmlns ++ [("rn".toList, ctname)])
      [("lbl".toList, .text ctname)]))
  | .crtsub _ subname nu =>
    some (js2xmlparser "m2m:sub".toList (.object (xmlns ++ [("rn".toList, subname)])
      [("enc".toList, .object [] [("net".toList, .text "3".toList)]),
        ("nu".toList, .text (nu.getD [])), ("nct".toList, .text "2".toList)]))
  | .rtvae _ => none
  | .delsub _ => none

/-- The body of `crtci`, as XML. -/
def crtci_body (content : Option Text) : Text :=
  js2xmlparser "m2m:cin".toList (.object xmlns [("con".toList, .text (content.getD []))])

/-! ## Tags -/

namespace Js2xmlparser

theorem replace_flatMap (c : Char) (t : Text) (f : Char → Text) (s : Text) :
    replace c t (s.flatMap f) = s.flatMap fun d => replace c t (f d) := List.flatMap_assoc

/-- The replacements one after the other are one for each character: the ampersand comes first,
and no later one is for a character of an entity. -/
theorem toString_eq (data : Text) : toString data = data.flatMap entity := by
  have hfirst : replace '&' "&amp;".toList data
      = data.flatMap fun d => if d = '&' then "&amp;".toList else [d] := rfl
  unfold toString
  rw [hfirst]
  simp only [replace_flatMap]
  congr 1
  funext c
  unfold entity
  by_cases hamp : c = '&'
  · rw [hamp]; rfl
  by_cases hlt : c = '<'
  · rw [hlt]; rfl
  by_cases hgt : c = '>'
  · rw [hgt]; rfl
  by_cases hquot : c = '"'
  · rw [hquot]; rfl
  by_cases hapos : c = '\''
  · rw [hapos]; rfl
  simp only [if_neg hamp, if_neg hlt, if_neg hgt, if_neg hquot, if_neg hapos, replace,
    List.flatMap_cons, List.flatMap_nil, List.append_nil]

theorem not_mem_toString {d : Char} (hd : d = '<' ∨ d = '>' ∨ d = '"') (t : Text) :
    d ∉ toString t := by
  rw [toString_eq]
  exact not_mem_flatMap_entity hd t

theorem not_mem_indent (level : ℕ) : '<' ∉ List.replicate level '\t' := by
  intro h
  exact absurd (List.eq_of_mem_replicate h) (by decide)

theorem tags_indent (level : ℕ) (t s : Text) : tags (addIndent t level ++ s) = tags (t ++ s) := by
  rw [addIndent, List.append_assoc, tags_append (not_mem_indent level)]

theorem tags_break (t s : Text) : tags (addBreak t ++ s) = tags (t ++ '\n' :: s) := by
  rw [addBreak, List.append_assoc]
  rfl

theorem tags_newline (s : Text) : tags ('\n' :: s) = tags s := rfl

/-- The attributes of an element have names that no tag can be mistaken by. -/
def NamedAttributes (attributes : List (Text × Text)) : Prop := ∀ a ∈ attributes, Name a.1

mutual

/-- All names that are written are such. -/
def Named : Data → Prop
  | .text _ => True
  | .object attributes fields => NamedAttributes attributes ∧ NamedFields fields
  | .array items => NamedItems items

def NamedItems : List Data → Prop
  | [] => True
  | item :: items => Named item ∧ NamedItems items

def NamedFields : List (Text × Data) → Prop
  | [] => True
  | (name, value) :: fields => Name name ∧ Named value ∧ NamedFields fields

end

theorem not_mem_attributes {attributes : List (Text × Text)} (h : NamedAttributes attributes)
    {d : Char} (hd : d = '<' ∨ d = '>') : d ∉ attributes.flatMap addAttribute := by
  intro hmem
  obtain ⟨a, ha, hda⟩ := List.mem_flatMap.mp hmem
  have hname := (h a ha).not_mem hd
  have hvalue := not_mem_toString (hd.imp_right Or.inl) a.2
  have hplain : d ∉ [' ', '=', '"'] := by
    rcases hd with rfl | rfl
    · decide
    · decide
  simp only [List.mem_cons, List.not_mem_nil, or_false, not_or] at hplain
  obtain ⟨hspace, hequals, hquote⟩ := hplain
  simp [addAttribute, hspace, hequals, hquote, hname, hvalue] at hda

/-- Attributes begin with a space and end with a quotation mark. -/
theorem attributes_ends (attributes : List (Text × Text)) :
    attributes.flatMap addAttribute = [] ∨
      (attributes.flatMap addAttribute).head? = some ' ' ∧
        (attributes.flatMap addAttribute).getLast? ≠ some '/' := by
  rcases List.eq_nil_or_concat attributes with rfl | ⟨attributes', a, rfl⟩
  · exact Or.inl rfl
  · refine Or.inr ⟨?_, ?_⟩
    · cases attributes' with
      | nil => rfl
      | cons b attributes' => rfl
    · have hlast : (addAttribute a).getLast? = some '"' := by
        have hconcat : addAttribute a = ' ' :: (a.1 ++ '=' :: '"' :: toString a.2) ++ ['"'] := by
          simp [addAttribute]
        rw [hconcat, List.getLast?_concat]
      have hne : addAttribute a ≠ [] := List.cons_ne_nil _ _
      rw [List.concat_eq_append, List.flatMap_append, List.flatMap_cons, List.flatMap_nil,
        List.append_nil, List.getLast?_append_of_ne_nil _ hne, hlast]
      decide

section Name

variable {name : Text} (hname : Name name)
include hname

theorem tags_opening (s : Text) : tags (opening name ++ s) = name :: tags s := by
  have htag := tags_tag (hname.not_mem (Or.inl rfl)) (hname.not_mem (Or.inr rfl)) s
  rw [← htag, opening]
  simp

theorem tags_closing (s : Text) : tags (closing name ++ s) = ('/' :: name) :: tags s := by
  have hopen : '<' ∉ '/' :: name := by simpa using hname.not_mem (Or.inl rfl)
  have hclose : '>' ∉ '/' :: name := by simpa using hname.not_mem (Or.inr rfl)
  rw [← tags_tag hopen hclose s, closing]
  simp

variable {attributes : List (Text × Text)} (hattributes : NamedAttributes attributes)
include hattributes

/-- The tag of an object; `close` is nothing or the slash of an empty one. -/
theorem tags_object (close : Text) (hclose : close = [] ∨ close = ['/']) (s : Text) :
    tags ('<' :: (name ++ attributes.flatMap addAttribute ++ close) ++ '>' :: s)
      = (name ++ attributes.flatMap addAttribute ++ close) :: tags s := by
  have hfree : ∀ d, d = '<' ∨ d = '>' → d ∉ name ++ attributes.flatMap addAttribute ++ close := by
    intro d hd
    have hname' := hname.not_mem hd
    have hattributes' := not_mem_attributes hattributes hd
    have hclose' : d ∉ close := by
      rcases hclose with rfl | rfl
      · exact List.not_mem_nil
      · rcases hd with rfl | rfl
        · decide
        · decide
    simp [hname', hattributes', hclose']
  exact tags_tag (hfree '<' (Or.inl rfl)) (hfree '>' (Or.inr rfl)) s

end Name

mutual

/-- **Nothing is left open**: what is written for a property does not change which elements are
open. -/
theorem nest_toXML (level : ℕ) {name : Text} (hname : Name name) (v : Data) (hv : Named v)
    (stack : List Text) (s : Text) :
    nest stack (tags (toXML level name v ++ s)) = nest stack (tags s) := by
  match v, hv with
  | .text t, _ =>
    have htext := tags_append (not_mem_toString (Or.inl rfl) t)
    have hopen := hname.nest_open (Or.inl rfl) stack
    simp only [List.append_nil] at hopen
    rw [toXML, tags_break, tags_indent, List.append_assoc, tags_opening hname, List.append_assoc,
      htext, tags_closing hname, tags_newline, hopen, Name.nest_close]
  | .object attributes [], hv =>
    have htag := tags_object hname hv.1 ['/'] (Or.inr rfl) ('\n' :: s)
    have htext : toXML level name (.object attributes []) ++ s = List.replicate level '\t' ++
        ('<' :: (name ++ attributes.flatMap addAttribute ++ ['/']) ++ '>' :: '\n' :: s) := by
      simp [toXML, addIndent, addBreak]
    rw [htext, tags_append (not_mem_indent level), htag, tags_newline]
    exact hname.nest_empty _ stack _
  | .object attributes (field :: fields), hv =>
    have htag := tags_object hname hv.1 [] (Or.inl rfl)
    have hfields := nest_toXMLFields (level + 1) (field :: fields) hv.2 (name :: stack)
    have htext : toXML level name (.object attributes (field :: fields)) ++ s
        = List.replicate level '\t' ++ ('<' :: (name ++ attributes.flatMap addAttribute ++ []) ++
          '>' :: ('\n' :: (toXMLFields (level + 1) (field :: fields) ++
            (addBreak (addIndent (closing name) level) ++ s)))) := by
      simp [toXML, addIndent, addBreak]
    rw [htext, tags_append (not_mem_indent level), htag, tags_newline, List.append_nil,
      hname.nest_open (attributes_ends attributes), hfields, tags_break, tags_indent,
      tags_closing hname, tags_newline, Name.nest_close]
  | .array items, hv =>
    rw [toXML]
    exact nest_toXMLItems level hname items hv stack s

theorem nest_toXMLItems (level : ℕ) {name : Text} (hname : Name name) (items : List Data)
    (hitems : NamedItems items) (stack : List Text) (s : Text) :
    nest stack (tags (toXMLItems level name items ++ s)) = nest stack (tags s) := by
  match items, hitems with
  | [], _ => rfl
  | item :: items, h =>
    rw [toXMLItems, List.append_assoc, nest_toXML level hname item h.1,
      nest_toXMLItems level hname items h.2]

theorem nest_toXMLFields (level : ℕ) (fields : List (Text × Data)) (hfields : NamedFields fields)
    (stack : List Text) (s : Text) :
    nest stack (tags (toXMLFields level fields ++ s)) = nest stack (tags s) := by
  match fields, hfields with
  | [], _ => rfl
  | (name, value) :: fields, h =>
    rw [toXMLFields, List.append_assoc, nest_toXML level h.1 value h.2.1,
      nest_toXMLFields level fields h.2.2]

end

/-! ## Documents -/

/-- What is written for an object ends with a tag and a line end. -/
theorem toXML_object_ends (level : ℕ) (name : Text) (attributes : List (Text × Text))
    (fields : List (Text × Data)) :
    ∃ u, toXML level name (.object attributes fields) = u ++ ['>', '\n'] := by
  cases fields with
  | nil =>
    exact ⟨addIndent ('<' :: name) level ++ (attributes.flatMap addAttribute ++ ['/']),
      by simp [toXML, addBreak]⟩
  | cons field fields =>
    exact ⟨addIndent ('<' :: name) level ++ (attributes.flatMap addAttribute ++ (addBreak ['>'] ++
      (toXMLFields (level + 1) (field :: fields) ++ addIndent ('<' :: '/' :: name) level))),
      by simp [toXML, addBreak, addIndent, closing]⟩

theorem stripRight_tag (u : Text) : stripRight (u ++ ['>', '\n']) = u ++ ['>'] := by
  have hbreak : isSpace '\n' = true := by decide
  have hclose : isSpace '>' = false := by decide
  have hreverse : (u ++ ['>', '\n']).reverse = '\n' :: '>' :: u.reverse := by simp
  rw [stripRight, hreverse, List.dropWhile_cons_of_pos hbreak,
    List.dropWhile_cons_of_neg (by simp [hclose])]
  simp

/-- What follows the last tag does not matter. -/
theorem tags_last {t : Text} (ht : '<' ∉ t) (u : Text) : tags (u ++ '>' :: t) = tags (u ++ ['>']) := by
  induction u with
  | nil =>
    have hnone := tags_append ht []
    rw [List.append_nil] at hnone
    exact hnone
  | cons c u ih =>
    by_cases hc : c = '<'
    · subst hc
      have htake : (u ++ '>' :: t).takeWhile (· ≠ '>') = (u ++ ['>']).takeWhile (· ≠ '>') := by
        simp [List.takeWhile_append]
      rw [List.cons_append, List.cons_append, tags, tags, ih, htake]
    · rw [List.cons_append, List.cons_append, tags, tags, ih]
      · exact hc
      · exact hc

theorem tags_declaration (s : Text) :
    tags (addBreak declaration ++ s)
      = "?xml version=\"1.0\" encoding=\"UTF-8\"?".toList :: tags s := by
  have hdeclaration : addBreak declaration ++ s
      = '<' :: ("?xml version=\"1.0\" encoding=\"UTF-8\"?".toList ++ '>' :: '\n' :: s) := by
    rfl
  rw [hdeclaration, tags_tag (by decide) (by decide)]
  rfl

/-- **A document.** Whatever the texts and the values of the attributes are, `js2xmlparser`
writes an object as elements that are closed in the order of their nesting. -/
theorem nested_object {root : Text} (hroot : Name root) {attributes : List (Text × Text)}
    {fields : List (Text × Data)} (hattributes : NamedAttributes attributes)
    (hfields : NamedFields fields) : Nested (js2xmlparser root (.object attributes fields)) := by
  obtain ⟨u, hu⟩ := toXML_object_ends 0 root attributes fields
  have hnest := nest_toXML 0 hroot (.object attributes fields) ⟨hattributes, hfields⟩ [] []
  rw [List.append_nil, hu, tags_last (by decide) u] at hnest
  have hskip : ∀ rest, nest [] ("?xml version=\"1.0\" encoding=\"UTF-8\"?".toList :: rest)
      = nest [] rest := fun _ => rfl
  rw [Nested, js2xmlparser, tags_declaration, hskip, hu, stripRight_tag, hnest]
  rfl

end Js2xmlparser

theorem name_of_all {name : Text} (hne : name ≠ [])
    (h : name.all (fun c => c ≠ ' ' && c ≠ '/' && c ≠ '<' && c ≠ '>' && c ≠ '?') = true) :
    Name name := by
  refine ⟨hne, fun c hc => ?_⟩
  simpa [and_assoc] using List.all_eq_true.mp h c hc

theorem named_xmlns : Js2xmlparser.NamedAttributes xmlns := by
  simp only [Js2xmlparser.NamedAttributes, xmlns, List.forall_mem_cons]
  exact ⟨name_of_all (by decide) (by decide), name_of_all (by decide) (by decide), by simp⟩

theorem named_rn (value : Text) :
    Js2xmlparser.NamedAttributes (xmlns ++ [("rn".toList, value)]) := by
  have hrn : Name "rn".toList := name_of_all (by decide) (by decide)
  intro a ha
  rcases List.mem_append.mp ha with ha | ha
  · exact named_xmlns a ha
  · rw [List.mem_singleton.mp ha]
    exact hrn

/-- **No content brings a tag with it.** Whatever the names, addresses and contents are, every
body that the gateway sends is a document whose elements are closed in the order of their
nesting. -/
theorem nested_body (r : AdnRequest) (content : Option Text) :
    (r.body = none ∨ ∃ text, r.body = some text ∧ Nested text) ∧ Nested (crtci_body content) := by
  have htext : ∀ t, Js2xmlparser.Named (.text t) := fun _ => trivial
  have hname : ∀ name ∈ ["m2m:ae", "m2m:cnt", "m2m:sub", "m2m:cin", "api", "rr", "lbl", "enc",
      "net", "nu", "nct", "con"], Name name.toList := by
    intro name hmem
    simp only [List.mem_cons, List.not_mem_nil, or_false] at hmem
    rcases hmem with rfl | rfl | rfl | rfl | rfl | rfl | rfl | rfl | rfl | rfl | rfl | rfl
    all_goals exact name_of_all (by decide) (by decide)
  constructor
  · cases r with
    | rtvae path => exact Or.inl rfl
    | delsub path => exact Or.inl rfl
    | crtae parent_path appname appid =>
      exact Or.inr ⟨_, rfl, Js2xmlparser.nested_object (hname "m2m:ae" (by simp)) (named_rn appname)
        ⟨hname "api" (by simp), htext _, hname "rr" (by simp), htext _, trivial⟩⟩
    | crtct parent_path ctname =>
      exact Or.inr ⟨_, rfl, Js2xmlparser.nested_object (hname "m2m:cnt" (by simp))
        (named_rn ctname) ⟨hname "lbl" (by simp), htext _, trivial⟩⟩
    | crtsub parent_path subname nu =>
      have henc : Js2xmlparser.Named (.object [] [("net".toList, .text "3".toList)]) :=
        ⟨by simp [Js2xmlparser.NamedAttributes], hname "net" (by simp), htext _, trivial⟩
      exact Or.inr ⟨_, rfl, Js2xmlparser.nested_object (hname "m2m:sub" (by simp))
        (named_rn subname) ⟨hname "enc" (by simp), henc, hname "nu" (by simp), htext _,
          hname "nct" (by simp), htext _, trivial⟩⟩
  · exact Js2xmlparser.nested_object (hname "m2m:cin" (by simp)) named_xmlns
      ⟨hname "con" (by simp), htext _, trivial⟩

/-! ## The content of an instance -/

section Content

open Js2xmlparser

/-- What stands before the content. -/
def crtci_head : Text :=
  addBreak declaration ++ (addIndent ('<' :: "m2m:cin".toList) 0 ++ (xmlns.flatMap addAttribute ++
    (addBreak ['>'] ++ addIndent (opening "con".toList) 1)))

/-- What stands behind it. -/
def crtci_tail : Text := closing "con".toList ++ '\n' :: closing "m2m:cin".toList

theorem crtci_body_eq (content : Option Text) :
    crtci_body content = crtci_head ++ (Js2xmlparser.toString (content.getD []) ++ crtci_tail) := by
  have htail : closing "m2m:cin".toList = '<' :: '/' :: "m2m:cin".toList ++ ['>'] := rfl
  have htoXML : toXML 0 "m2m:cin".toList (.object xmlns [("con".toList, .text (content.getD []))])
      = addIndent ('<' :: "m2m:cin".toList) 0 ++ (xmlns.flatMap addAttribute ++ (addBreak ['>'] ++
        (addIndent (opening "con".toList) 1 ++ (Js2xmlparser.toString (content.getD []) ++
          (closing "con".toList ++ '\n' :: '<' :: '/' :: "m2m:cin".toList))))) ++ ['>', '\n'] := by
    generalize "m2m:cin".toList = root
    generalize "con".toList = con
    simp [toXML, toXMLFields, addIndent, addBreak, closing]
  rw [crtci_body, js2xmlparser, htoXML, stripRight_tag, crtci_head, crtci_tail, htail]
  simp only [List.append_assoc, List.cons_append]

/-! ## Its length -/

/-- `s.length`, which counts the units of UTF-16. -/
def length : Text → ℕ
  | [] => 0
  | c :: s => (if c.toNat < 0x10000 then 1 else 2) + length s

/-- The bytes of `req.write(s)`, which writes UTF-8. -/
def bytes : Text → ℕ
  | [] => 0
  | c :: s => c.utf8Size + bytes s

theorem utf8Size_eq (c : Char) :
    c.utf8Size = if c.toNat ≤ 127 then 1 else if c.toNat ≤ 2047 then 2
      else if c.toNat ≤ 65535 then 3 else 4 := by
  unfold Char.utf8Size
  simp only [UInt32.le_iff_toNat_le]
  rfl

theorem unit_le_utf8Size (c : Char) : (if c.toNat < 0x10000 then 1 else 2) ≤ c.utf8Size := by
  rw [utf8Size_eq]
  split_ifs
  all_goals omega

theorem unit_eq_utf8Size_iff (c : Char) :
    (if c.toNat < 0x10000 then 1 else 2) = c.utf8Size ↔ c.toNat < 128 := by
  rw [utf8Size_eq]
  split_ifs
  all_goals omega

/-- A text is announced with as many bytes as are written exactly if it is ASCII, and never with
more. -/
theorem length_eq_bytes_iff (s : Text) :
    length s ≤ bytes s ∧ (length s = bytes s ↔ ∀ c ∈ s, c.toNat < 128) := by
  induction s with
  | nil => simp [length, bytes]
  | cons c s ih =>
    obtain ⟨hle, hiff⟩ := ih
    have hunit := unit_le_utf8Size c
    have hunit' := unit_eq_utf8Size_iff c
    rw [length, bytes, List.forall_mem_cons, ← hunit', ← hiff]
    refine ⟨Nat.add_le_add hunit hle, ?_⟩
    omega

theorem ascii_entity_iff (c : Char) : (∀ d ∈ entity c, d.toNat < 128) ↔ c.toNat < 128 := by
  by_cases hbare : Bare c
  · rw [entity_bare hbare]
    simp
  · have hentity : (entity c).all (fun d => decide (d.toNat < 128)) = true ∧ c.toNat < 128 := by
      unfold Bare at hbare
      simp only [not_and_or, not_not] at hbare
      rcases hbare with rfl | rfl | rfl | rfl | rfl
      all_goals decide
    refine iff_of_true ?_ hentity.2
    intro d hd
    exact of_decide_eq_true (List.all_eq_true.mp hentity.1 d hd)

/-- **The length of a body.** `crtci` never announces more bytes than it writes, and announces
as many exactly if the content is ASCII; otherwise the server sees the end of a body before it
is there. -/
theorem content_length_iff (content : Text) :
    length (crtci_body (some content)) ≤ bytes (crtci_body (some content)) ∧
      (length (crtci_body (some content)) = bytes (crtci_body (some content)) ↔
        ∀ c ∈ content, c.toNat < 128) := by
  obtain ⟨hle, hiff⟩ := length_eq_bytes_iff (crtci_body (some content))
  refine ⟨hle, hiff.trans ?_⟩
  have hall : (crtci_head ++ crtci_tail).all (fun c => decide (c.toNat < 128)) = true := by
    decide +kernel
  have hascii : ∀ c ∈ crtci_head ++ crtci_tail, c.toNat < 128 :=
    fun c hc => of_decide_eq_true (List.all_eq_true.mp hall c hc)
  obtain ⟨hhead, htail⟩ := List.forall_mem_append.mp hascii
  rw [crtci_body_eq, List.forall_mem_append, List.forall_mem_append, and_iff_right hhead,
    and_iff_left htail, Option.getD_some, toString_eq]
  simp only [List.forall_mem_flatMap, ascii_entity_iff]

end Content

end SmartBike.Gateway
