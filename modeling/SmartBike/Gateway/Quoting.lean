/-
What is read back of what the gateway writes on a socket.

`send_tas` of `noti.js` builds its text with `JSON.stringify`, the callback of `crtci` in
`app.js` by writing the parts next to each other. The first can be read back whatever the
content is (`parse_cin_text`), the second exactly if nothing in the content needs an escape
(`parse_reply_iff`). `ModeCheck` does not parse what it reads, but takes a slice of it, and so
it is the other way round: of a notification it reads the content as it is written there
(`reads_iff`).

The second result rests on a count. A quoted text is at least as long as what it stands for,
and where the lengths agree it is that text; what stands behind it is too short to be the content.
-/
import SmartBike.Gateway.Notify
import SmartBike.Parking.ModeCheck

set_option autoImplicit false

open Js Utf16
open SmartBike.Gateway.Mqtt (written reply_eq cin_text_eq)

namespace SmartBike.Gateway

namespace JSON

/-! ## What the gateway writes -/

/-- The first property is read, and what is left is one member. -/
theorem parse_written {q ctname : Text} (hq : ∀ t, scan (q ++ '"' :: t) = some (encode ctname, t))
    (w : Text) :
    ∃ fuel, parse (written q w)
      = (members Number.ofDecimal (fuel + 2)
          ('"' :: ("con".toList ++ '"' :: ':' :: '"' :: (w ++ ['"', '}'])))).bind fun r =>
        if skip r.2 = [] then some (.object
          ((("ctname", .string (String.ofList ctname)) :: r.1).foldl assign [])) else none :=
  parse_first (literal_of_all_plain plain_ctname) hq _

theorem ctname_ne_con : "ctname" ≠ "con" := by decide

/-- What can be read back of the second text. -/
theorem parse_written_of_scan {q ctname w con : Text}
    (hq : ∀ t, scan (q ++ '"' :: t) = some (encode ctname, t))
    (hw : scan (w ++ ['"', '}']) = some (encode con, ['}'])) :
    parse (written q w) = some (object ctname con) := by
  obtain ⟨fuel, hparse⟩ := parse_written hq w
  rw [hparse, members_last (literal_of_all_plain plain_con) hw, Option.bind_some]
  exact congrArg (fun fields => some (Json.object fields)) (foldl_assign_two ctname_ne_con _ _)

/-- **Read back.** What `send_tas` writes for a content that is a string is an object with
just this content, whatever it is. -/
theorem parse_cin_text {N : Type} (num : Numbers N) (ctname : Text) (con : String) :
    parse (cin_text num (some ctname) (some (.string con))) = some (object ctname con.toList) := by
  rw [cin_text_eq]
  exact parse_written_of_scan (scan_flatMap_escape ctname) (scan_flatMap_escape con.toList ['}'])

/-- **Read back, if nothing is quoted.** What the callback of `crtci` writes, a status or the
text of an error, is an object with just this text exactly if no character of it needs an
escape. -/
theorem parse_reply_iff {ctname : Text} (hctname : ∀ c ∈ ctname, Plain c) (con : Text) :
    parse (reply ctname con) = some (object ctname con) ↔ ∀ c ∈ con, Literal c := by
  have hq := scan_literal (literal_of_all_plain hctname)
  rw [reply_eq]
  constructor
  · intro h
    obtain ⟨fuel, hparse⟩ := parse_written hq con
    rw [hparse, members_key (literal_of_all_plain plain_con)] at h
    obtain ⟨⟨ms, t⟩, hmembers, h⟩ := Option.bind_eq_some_iff.mp h
    obtain ⟨⟨v, t'⟩, hscan, hrest⟩ := Option.bind_eq_some_iff.mp hmembers
    split_ifs at h
    obtain ⟨hlt, hliteral⟩ := scan_length hscan
    simp only [List.length_append, List.length_cons, List.length_nil] at hlt hliteral
    -- the content is what a member has given to it
    have hmem : (("con", .string (String.ofList con)) : String × Json Number) ∈ ms := by
      have hobject := Json.object.inj (Option.some.inj h)
      have hin : (("con", .string (String.ofList con)) : String × Json Number)
          ∈ (("ctname", .string (String.ofList ctname)) :: ms).foldl assign [] := by
        rw [hobject]
        exact List.mem_cons_of_mem _ List.mem_cons_self
      rcases mem_of_mem_assign hin with hin | hin
      · simp at hin
      · rcases List.mem_cons.mp hin with heq | hin
        · exact absurd (congrArg Prod.fst heq).symm ctname_ne_con
        · exact hin
    have hinj : ∀ u : Text,
        (("con", .string (String.ofList con)) : String × Json Number)
          = ("con", .string (String.ofList u)) → u = con :=
      fun u heq => (String.ofList_inj.mp (Json.string.inj (Prod.mk.inj heq).2)).symm
    -- it is the first member's, as a later one would be too short
    have hfirst : decode v = con ∧ 0 < t'.length := by
      have hle := length_skip_le t'
      dsimp only at hrest
      split at hrest
      · rename_i u hskip
        rw [hskip, List.length_cons] at hle
        obtain ⟨q, hmore, heq⟩ := Option.map_eq_some_iff.mp hrest
        obtain ⟨rfl, rfl⟩ := Prod.mk.inj heq
        rcases List.mem_cons.mp hmem with heq | hin
        · exact ⟨hinj _ heq, by omega⟩
        · have hshort := members_string_length hmore hin
          rw [String.toList_ofList] at hshort
          omega
      · rename_i u hskip
        rw [hskip, List.length_cons] at hle
        obtain ⟨rfl, rfl⟩ := Prod.mk.inj (Option.some.inj hrest)
        exact ⟨hinj _ (List.mem_singleton.mp hmem), by omega⟩
      · simp at hrest
    obtain ⟨hvalue, hbrace⟩ := hfirst
    rw [hvalue] at hlt hliteral
    apply hliteral
    omega
  · intro h
    apply parse_written_of_scan hq
    exact scan_literal h ['}']

/-- The text of an error that quotes a name is not read back. -/
theorem parse_reply_iff_quote :
    parse (reply "parking_state".toList "no \"host\"".toList)
      ≠ some (object "parking_state".toList "no \"host\"".toList) :=
  fun h => absurd ((parse_reply_iff (plain_of_all (by decide)) _).mp h '"' (by decide)) (by decide)

end JSON

/-! ## What `ModeCheck` reads -/

section Reads

open Parking
open GatewayMessage (opening length_opening)

theorem slice_opening (t : Text) : ModeCheck.slice (opening ++ t ++ ['"', '}']) = t := by
  have hlength : (opening ++ t ++ ['"', '}']).length - 2 = (opening ++ t).length := by
    simp only [List.length_append, List.length_cons, List.length_nil]
    omega
  rw [ModeCheck.slice, hlength, List.take_left, ← length_opening, List.drop_left]

theorem slice_cin_text {N : Type} (num : Numbers N) (con : String) :
    ModeCheck.slice (cin_text num (some "parking_mode".toList) (some (.string con)))
      = con.toList.flatMap escape := by
  have hmode : "parking_mode".toList.flatMap escape = "parking_mode".toList := by decide
  have hbytes : ∀ t, reply "parking_mode".toList t = opening ++ t ++ ['"', '}'] := fun _ => rfl
  rw [cin_text_eq, hmode, ← reply_eq, hbytes, slice_opening]

/-- **What `ModeCheck` makes of a notification.** For every content that is a string, it finds
a mode in what `send_tas` writes exactly if Python reads the content as this number and no
character of it needs an escape. With one, be it a line end that `int` would pass over, the
thread ends. -/
theorem reads_iff {N : Type} (num : Numbers N) (con : String) (v : ℤ) :
    int (ModeCheck.slice (cin_text num (some "parking_mode".toList) (some (.string con))))
        = some v ↔
      int con.toList = some v ∧ ∀ c ∈ con.toList, Literal c := by
  rw [slice_cin_text]
  by_cases hliteral : ∀ c ∈ con.toList, Literal c
  · rw [flatMap_escape hliteral]
    exact (and_iff_left hliteral).symm
  · have hnone : int (con.toList.flatMap escape) = none := by
      push Not at hliteral
      obtain ⟨c, hc, hnot⟩ := hliteral
      exact int_none (by decide) (List.mem_flatMap.mpr ⟨c, hc, backslash_mem_escape hnot⟩)
    rw [hnone]
    exact iff_of_false (by simp) fun h => hliteral h.2

end Reads

end SmartBike.Gateway
