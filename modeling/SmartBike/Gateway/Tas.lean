/-
The gateway of `thyme-v1.6.5`: the TCP server of `app.js` the scripts write to, the
requests `crtci` makes for what they write, and `send_tas` of `noti.js`.

All scripts write ASCII, so a byte of a socket is a `Char` here. What a line says is compared by
its text: that is what `==` does with a string that neither a number nor `null`, `undefined`,
`true` or `false` is written as, and neither the greeting nor a container of `conf.json` is one.

A request `crtci` makes has a connection of its own; what reaches the server, and
when, is the library's `Net`.
-/
import SmartBike.Lib.Delivery
import SmartBike.Lib.Framing
import SmartBike.Lib.JsonParse
import SmartBike.Lib.Number

set_option autoImplicit false

open Runs Delivery Js

namespace SmartBike.Gateway

/-- What goes through a socket. -/
abbrev Text := List Char

/-! ## Messages -/

/-- What a script writes: `'{"ctname":"c", "con":"v"}'`. -/
def message (ctname con : Text) : Text :=
  "\x7b\"ctname\":\"".toList ++ ctname ++ "\", \"con\":\"".toList ++ con ++ "\"\x7d".toList

/-- What the gateway writes: a reply of `app.js`, or `JSON.stringify(cin)` of a `con`
without special characters. -/
def reply (ctname con : Text) : Text :=
  "\x7b\"ctname\":\"".toList ++ ctname ++ "\",\"con\":\"".toList ++ con ++ "\"\x7d".toList

namespace JSON

/-- `JSON.parse`; `none` where it throws. -/
def parse (t : Text) : Option (Json Number) := Js.parse Number.ofDecimal t

/-- Lines 341-343: the container as `socket_arr` is asked for it, the content, and its text;
`none` where an exception is thrown. -/
def message (line : Text) : Option (Text × Value Number × Text) := do
  let jsonObj ← parse line
  let ctname ← prop (some jsonObj) "ctname"
  let content ← prop (some jsonObj) "con"
  return (← text Number.numbers ctname, content, ← text Number.numbers content)

end JSON

/-- The containers of `conf.json`. -/
def usectname : List Text :=
  ["parking_mode".toList, "beacon_number".toList, "parking_location".toList,
    "parking_state".toList, "left_light".toList, "right_light".toList]

/-! ## The gateway -/

inductive ShState where
  | crtae
  | rtvae
  | crtct
  | delsub
  | crtsub
  | crtci
  deriving DecidableEq, Repr

/-- A request of `crtci`: the container, the content, which is any value that a line can have, and
the socket the reply will be written to. -/
structure Request where
  ctname : Text
  content : Value Number
  socket : ℕ

/-- The gateway's variables, its requests, what it has written on sockets, oldest first,
and whether an exception has ended it. Sockets are numbered in the order of their
connection. -/
structure Tas where
  buffers : ℕ → Text
  socket_arr : Text → Option ℕ
  sh_state : ShState
  requests : Net Request
  written : List (ℕ × Text)
  crashed : Bool

inductive Label where
  | connect (socket : ℕ)
  | data (socket : ℕ) (data : Text)
  -- `end` and `close` are only logged
  | close (socket : ℕ)
  -- the pending request at index `i` reaches the server
  | arrive (i : ℕ)
  -- the callback of a request
  | respond (socket : ℕ) (ctname status res_body : Text)
  -- a notification of `subname` in the container `ctname`
  | notify (ctname con : Text)
  -- the timer of line 197, of which only the state it leaves is read here
  | interval (sh_state : ShState)
  deriving DecidableEq, Repr

namespace Tas

/-- The gateway when it starts to listen. -/
def init : Tas := ⟨fun _ => [], fun _ => none, .crtci, .empty, [], false⟩

/-- Lines 339-379, for one line. -/
def line (g : Tas) (socket : ℕ) (line : Text) : Tas :=
  if g.crashed then g
  else
    match JSON.message line with
    | none => { g with crashed := true }
    | some (ctname, content, con) =>
      let g := { g with socket_arr := Function.update g.socket_arr ctname (some socket) }
      if con = "hello".toList then { g with written := g.written ++ [(socket, line)] }
      else if g.sh_state = .crtci ∧ ctname ∈ usectname then
        { g with requests := g.requests.issue ⟨ctname, content, socket⟩ }
      else g

def lines (g : Tas) (socket : ℕ) (ls : List Text) : Tas :=
  ls.foldl (fun g l => g.line socket (l ++ ['}'])) g

/-- The listener of `data`, lines 332-381. -/
def data (g : Tas) (socket : ℕ) (data : Text) : Tas :=
  let data_arr := (g.buffers socket ++ data).splitOn '}'
  if 2 ≤ data_arr.length then
    { g with buffers := Function.update g.buffers socket [] }.lines socket data_arr.dropLast
  else { g with buffers := Function.update g.buffers socket (g.buffers socket ++ data) }

/-- The callback of line 359: a status is replied, or the text of an error. -/
def respond (g : Tas) (socket : ℕ) (ctname status res_body : Text) : Tas :=
  { g with
    sh_state := if status = "5000".toList then .crtae else g.sh_state
    written := g.written ++
      [(socket, reply ctname (if status = "9999".toList then res_body else status))] }

/-- `send_tas`. -/
def send_tas (g : Tas) (ctname con : Text) : Tas :=
  if con = [] then g
  else
    match g.socket_arr ctname with
    | none => g
    | some socket => { g with written := g.written ++ [(socket, reply ctname con)] }

/-- What a label does to a gateway that is running. -/
def handle (g : Tas) : Label → Tas
  | .connect socket => { g with buffers := Function.update g.buffers socket [] }
  | .data socket data => g.data socket data
  | .close _ => g
  | .arrive i => { g with requests := g.requests.arrive i }
  | .respond socket ctname status res_body => g.respond socket ctname status res_body
  | .notify ctname con => g.send_tas ctname con
  | .interval sh_state => { g with sh_state := sh_state }

/-- After an exception only what is on its way to the server still arrives. -/
def step (g : Tas) (l : Label) : Tas :=
  match g.crashed, l with
  | false, l => g.handle l
  | true, .arrive i => g.handle (.arrive i)
  | true, _ => g

theorem step_alive {g : Tas} (hg : g.crashed = false) (l : Label) : g.step l = g.handle l := by
  simp only [step, hg]

end Tas

/-! ## Messages and lines -/

/-- A character that stands for itself in a message: printable ASCII, no brace, no
quotation mark, no backslash. -/
def Plain (c : Char) : Prop :=
  32 ≤ c.toNat ∧ c.toNat < 127 ∧ c ≠ '"' ∧ c ≠ '\\' ∧ c ≠ '{' ∧ c ≠ '}'

instance (c : Char) : Decidable (Plain c) := inferInstanceAs (Decidable (_ ∧ _))

theorem plain_of_all {s : Text} (h : s.all (fun c => decide (Plain c)) = true) :
    ∀ c ∈ s, Plain c :=
  fun c hc => of_decide_eq_true (List.all_eq_true.mp h c hc)

theorem plain_ctname : ∀ c ∈ "ctname".toList, Plain c := plain_of_all (by decide)

theorem plain_con : ∀ c ∈ "con".toList, Plain c := plain_of_all (by decide)

theorem not_mem_of_plain {s : Text} (hs : ∀ c ∈ s, Plain c) : '}' ∉ s :=
  fun h => (hs _ h).2.2.2.2.2 rfl

/-- A message without its closing brace. -/
def unclosed (ctname con : Text) : Text :=
  '{' :: '"' :: ("ctname".toList ++ '"' :: ':' :: '"' :: (ctname ++ '"' :: ',' :: ' ' :: '"' ::
    ("con".toList ++ '"' :: ':' :: '"' :: (con ++ ['"']))))

theorem message_eq (ctname con : Text) : message ctname con = unclosed ctname con ++ ['}'] := by
  have hopen : "\x7b\"ctname\":\"".toList = '{' :: '"' :: ("ctname".toList ++ ['"', ':', '"']) :=
    rfl
  have hmid : "\", \"con\":\"".toList
      = '"' :: ',' :: ' ' :: '"' :: ("con".toList ++ ['"', ':', '"']) := rfl
  have hclose : "\"\x7d".toList = ['"', '}'] := rfl
  unfold message unclosed
  rw [hopen, hmid, hclose]
  generalize "ctname".toList = key
  generalize "con".toList = key'
  simp only [List.append_assoc, List.cons_append, List.nil_append]

theorem not_mem_unclosed {ctname con : Text} (hctname : ∀ c ∈ ctname, Plain c)
    (hcon : ∀ c ∈ con, Plain c) : '}' ∉ unclosed ctname con := by
  have h1 := not_mem_of_plain hctname
  have h2 := not_mem_of_plain hcon
  have h3 := not_mem_of_plain plain_ctname
  have h4 := not_mem_of_plain plain_con
  unfold unclosed
  generalize "ctname".toList = key at h3 ⊢
  generalize "con".toList = key' at h4 ⊢
  simp [h1, h2, h3, h4]

theorem literal_of_plain {c : Char} (h : Plain c) : Literal c := ⟨h.1, h.2.2.1, h.2.2.2.1⟩

theorem literal_of_all_plain {s : Text} (hs : ∀ c ∈ s, Plain c) : ∀ c ∈ s, Literal c :=
  fun c hc => literal_of_plain (hs c hc)

namespace JSON

/-- An object with a container and a content. -/
def object (ctname con : Text) : Json Number :=
  .object [("ctname", .string (String.ofList ctname)), ("con", .string (String.ofList con))]

/-- **What a message stands for.** -/
theorem parse_message {ctname con : Text} (hctname : ∀ c ∈ ctname, Plain c)
    (hcon : ∀ c ∈ con, Plain c) :
    parse (Gateway.message ctname con) = some (object ctname con) := by
  have hk := literal_of_all_plain plain_ctname
  have hk' := literal_of_all_plain plain_con
  have hv := literal_of_all_plain hctname
  have hv' := literal_of_all_plain hcon
  have hobject : object ctname con
      = .object [(String.ofList "ctname".toList, .string (String.ofList ctname)),
        (String.ofList "con".toList, .string (String.ofList con))] := rfl
  have hne : String.ofList "ctname".toList ≠ String.ofList "con".toList := by decide
  rw [message_eq, hobject]
  unfold unclosed
  generalize "ctname".toList = key at hk hne ⊢
  generalize "con".toList = key' at hk' hne ⊢
  simp only [List.cons_append, List.append_assoc, List.nil_append]
  obtain ⟨fuel, hparse⟩ := @parse_first _ Number.ofDecimal _ _ _ hk (scan_literal hv)
    (' ' :: '"' :: (key' ++ '"' :: ':' :: '"' :: (con ++ ['"', '}'])))
  rw [parse, hparse, members_space, members_last hk' (scan_literal hv' _), Option.bind_some]
  exact congrArg (fun fields => some (Json.object fields)) (foldl_assign_two hne _ _)

/-- **What is made of it.** -/
theorem message_message {ctname con : Text} (hctname : ∀ c ∈ ctname, Plain c)
    (hcon : ∀ c ∈ con, Plain c) :
    message (Gateway.message ctname con)
      = some (ctname, some (.string (String.ofList con)), con) := by
  have hname : prop (some (object ctname con)) "ctname"
      = some (some (.string (String.ofList ctname))) := rfl
  have hvalue : prop (some (object ctname con)) "con"
      = some (some (.string (String.ofList con))) := rfl
  have htext (t : Text) : text Number.numbers (some (.string (String.ofList t))) = some t :=
    congrArg some (String.toList_ofList)
  rw [message, parse_message hctname hcon, Option.bind_eq_bind, Option.bind_some, hname,
    Option.bind_eq_bind, Option.bind_some, hvalue, Option.bind_eq_bind, Option.bind_some, htext,
    Option.bind_some, htext]
  rfl

end JSON

namespace Tas

/-- **What the line of a message does**: it registers the socket for the container, and
is echoed or becomes a request. -/
theorem line_message {g : Tas} (hg : g.crashed = false) (socket : ℕ) {ctname con : Text}
    (hctname : ∀ c ∈ ctname, Plain c) (hcon : ∀ c ∈ con, Plain c) :
    g.line socket (message ctname con) =
      let g' := { g with socket_arr := Function.update g.socket_arr ctname (some socket) }
      if con = "hello".toList then
        { g' with written := g.written ++ [(socket, message ctname con)] }
      else if g.sh_state = .crtci ∧ ctname ∈ usectname then
        { g' with
          requests := g.requests.issue ⟨ctname, some (.string (String.ofList con)), socket⟩ }
      else g' := by
  simp only [line, hg, Bool.false_eq_true, if_false, JSON.message_message hctname hcon]

@[simp] theorem lines_nil (g : Tas) (socket : ℕ) : g.lines socket [] = g := rfl

@[simp] theorem lines_cons (g : Tas) (socket : ℕ) (l : Text) (ls : List Text) :
    g.lines socket (l :: ls) = (g.line socket (l ++ ['}'])).lines socket ls := rfl

/-- A notification changes nothing but what is written. -/
theorem send_tas_frame (g : Tas) (ctname con : Text) :
    ∃ written, g.send_tas ctname con = { g with written := g.written ++ written } := by
  have hnil : g = { g with written := g.written ++ [] } := by rw [List.append_nil]
  unfold send_tas
  split_ifs
  · exact ⟨[], hnil⟩
  · split
    · exact ⟨[], hnil⟩
    · rename_i socket _
      exact ⟨[(socket, reply ctname con)], rfl⟩

/-- A chunk that completes a line and does not end with one loses what follows the
last line; every other chunk is received as the library's receiver does. -/
theorem data_eq_receive {g : Tas} (socket : ℕ) {d : Text}
    (hbuffer : '}' ∉ g.buffers socket) (hd : '}' ∈ d → d.getLast? = some '}') :
    g.data socket d = { g with
      buffers := Function.update g.buffers socket
        (Framing.receive '}' (g.buffers socket) d).2 }.lines socket
        (Framing.receive '}' (g.buffers socket) d).1 := by
  unfold data
  dsimp only
  by_cases hmem : '}' ∈ d
  · have hrest : (Framing.receive '}' (g.buffers socket) d).2 = [] :=
      Framing.receive_closed (hd hmem)
    have hlen : 2 ≤ ((g.buffers socket ++ d).splitOn '}').length := by
      obtain ⟨init, rfl⟩ := List.getLast?_eq_some_iff.mp (hd hmem)
      rw [← List.append_assoc, List.splitOn_append_cons_self]
      have h1 := List.length_pos_of_ne_nil (List.splitOn_ne_nil '}' (g.buffers socket ++ init))
      have h2 := List.length_pos_of_ne_nil (List.splitOn_ne_nil '}' ([] : Text))
      rw [List.length_append]
      omega
    rw [if_pos hlen, hrest]
    rfl
  · have hnot : '}' ∉ g.buffers socket ++ d := by simp [hbuffer, hmem]
    rw [Framing.receive_open hbuffer hmem, List.splitOn_eq_singleton hnot, if_neg (by simp)]
    rfl

end Tas

end SmartBike.Gateway
