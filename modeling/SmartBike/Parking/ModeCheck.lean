/-
`ModeCheck.run` of `parking_thread.py`, and the stream it reads from.

The gateway writes two kinds of messages on `s`: replies to the registration and mode
notifications. They come as a stream, of which each `recv` returns the next bytes, as
many as it likes, and `ModeCheck` takes what stands between the first 32 and the last
two of them for a mode. That is right for one whole message; this file says for which
other cuts of the stream it is (`tracked_iff`).

The argument is about one `recv`. Bytes of two messages always raise: what is read
begins or ends within the fixed text around a `con`, which no number contains. So does
a part of a notification, which is too short.
-/
import SmartBike.App.FirstActivity
import SmartBike.Gateway.Tas
import SmartBike.Parking.Threads

set_option autoImplicit false

open Runs

namespace SmartBike.Parking

open Gateway (Text)
open App (ParkingMode)

/-! ## `int` -/

def isSpace (c : Char) : Bool :=
  c = ' ' || c = '\t' || c = '\n' || c = '\r' || c = '\x0b' || c = '\x0c'

def strip (t : Text) : Text := ((t.dropWhile isSpace).reverse.dropWhile isSpace).reverse

def digit (c : Char) : Option ℕ :=
  if '0' ≤ c ∧ c ≤ '9' then some (c.toNat - '0'.toNat) else none

/-- The number `n` with some more digits. -/
def digits (n : ℕ) : Text → Option ℕ
  | [] => some n
  | c :: t => (digit c).bind fun d => digits (10 * n + d) t

def unsigned (t : Text) : Option ℕ := if t = [] then none else digits 0 t

/-- `int` of a string; `none` where it raises. The script runs under Python 2, where there may be
white space between the sign and the digits. -/
def int (t : Text) : Option ℤ :=
  match strip t with
  | '-' :: t => (unsigned (t.dropWhile isSpace)).map fun n => -(n : ℤ)
  | '+' :: t => (unsigned (t.dropWhile isSpace)).map fun n => (n : ℤ)
  | t => (unsigned t).map fun n => (n : ℤ)

/-- A character that a number may contain. -/
def Numeral (c : Char) : Prop := isSpace c = true ∨ (digit c).isSome = true ∨ c = '-' ∨ c = '+'

instance (c : Char) : Decidable (Numeral c) := inferInstanceAs (Decidable (_ ∨ _))

theorem mem_dropWhile {p : Char → Bool} {c : Char} (hc : p c = false) {t : Text} (h : c ∈ t) :
    c ∈ t.dropWhile p := by
  induction t with
  | nil => exact h
  | cons d t ih =>
    rw [List.dropWhile_cons]
    by_cases hd : p d = true
    · rw [if_pos hd]
      rcases List.mem_cons.mp h with rfl | h
      · rw [hc] at hd
        exact absurd hd (by decide)
      · exact ih h
    · rw [if_neg hd]
      exact h

theorem mem_strip {c : Char} (hc : isSpace c = false) {t : Text} (h : c ∈ t) : c ∈ strip t := by
  unfold strip
  rw [List.mem_reverse]
  apply mem_dropWhile hc
  rw [List.mem_reverse]
  exact mem_dropWhile hc h

theorem digits_none {c : Char} (hc : digit c = none) {t : Text} (h : c ∈ t) (n : ℕ) :
    digits n t = none := by
  induction t generalizing n with
  | nil => simp at h
  | cons d t ih =>
    unfold digits
    rcases List.mem_cons.mp h with rfl | h
    · rw [hc]
      rfl
    · rcases digit d with _ | k
      · rfl
      · exact ih h _

theorem unsigned_none {c : Char} (hc : digit c = none) {t : Text} (h : c ∈ t) :
    unsigned t = none := by
  unfold unsigned
  split_ifs
  · rfl
  · exact digits_none hc h 0

/-- **What raises**: a character that no number contains. -/
theorem int_none {c : Char} (hc : ¬ Numeral c) {t : Text} (h : c ∈ t) : int t = none := by
  unfold Numeral at hc
  simp only [not_or, Bool.not_eq_true, Option.isSome_eq_false_iff, Option.isNone_iff_eq_none] at hc
  obtain ⟨hspace, hdigit, hminus, hplus⟩ := hc
  have hmem := mem_strip hspace h
  unfold int
  split
  · rename_i t' heq
    rw [heq] at hmem
    have hrest := mem_dropWhile hspace ((List.mem_cons.mp hmem).resolve_left hminus)
    rw [unsigned_none hdigit hrest]
    rfl
  · rename_i t' heq
    rw [heq] at hmem
    have hrest := mem_dropWhile hspace ((List.mem_cons.mp hmem).resolve_left hplus)
    rw [unsigned_none hdigit hrest]
    rfl
  · rw [unsigned_none hdigit hmem]
    rfl

/-! ## `ModeCheck` -/

/-- `info`, `none` for the initial `""`, and whether an exception has ended the thread. -/
structure ModeCheck where
  info : Option ℤ
  raised : Bool
  deriving DecidableEq, Repr

namespace ModeCheck

def init : ModeCheck := ⟨none, false⟩

/-- `data[32:check]`, where `check` is `len(data) - 2`. -/
def slice (data : Text) : Text := (data.take (data.length - 2)).drop 32

/-- Lines 59-61, with what `recv` returned. -/
def recv (m : ModeCheck) (data : Text) : ModeCheck :=
  if m.raised then m
  else
    match int (slice data) with
    | none => { m with raised := true }
    | some info => { m with info := some info }

theorem recv_of_none {m : ModeCheck} {data : Text} (hm : m.raised = false)
    (h : int (slice data) = none) : (m.recv data).raised = true := by
  simp only [recv, hm, Bool.false_eq_true, if_false, h]

theorem recv_of_some {m : ModeCheck} {data : Text} {v : ℤ} (hm : m.raised = false)
    (h : int (slice data) = some v) : m.recv data = ⟨some v, false⟩ := by
  simp only [recv, hm, Bool.false_eq_true, if_false, h]

/-- What `recv` returns is the input of a step of the threads. -/
theorem recv_eq_mode_check {D : Type*} [Field D] [LinearOrder D] [IsStrictOrderedRing D]
    (P : Power D) (t : Threads D) {data : Text} {v : ℤ} (h : int (slice data) = some v) :
    (t.step P (.mode_check v)).shared.info = (recv ⟨t.shared.info, false⟩ data).info := by
  rw [recv_of_some rfl h]
  rfl

/-- Too few bytes for a number. -/
theorem int_slice_short {data : Text} (h : data.length ≤ 34) : int (slice data) = none := by
  have hnil : slice data = [] := by
    unfold slice
    rw [List.drop_eq_nil_iff, List.length_take]
    omega
  rw [hnil]
  rfl

/-- A byte that no number contains, in the place of one. -/
theorem int_slice_none {data : Text} {i : ℕ} {c : Char} (h32 : 32 ≤ i) (hlt : i + 2 < data.length)
    (hc : data[i]? = some c) (hnum : ¬ Numeral c) : int (slice data) = none := by
  apply int_none hnum
  obtain ⟨j, rfl⟩ := Nat.exists_eq_add_of_le h32
  have hslice : (slice data)[j]? = some c := by
    unfold slice
    rw [List.getElem?_drop, List.getElem?_take, if_pos (by omega), hc]
  exact List.mem_of_getElem? hslice

end ModeCheck

/-! ## What the gateway writes on `s` -/

/-- The number a notification of a mode carries. -/
def mode_num : ParkingMode → ℤ
  | .driving => 0
  | .parking => 1

inductive GatewayMessage where
  -- to the registration: a status code, or the text of an error
  | reply (con : Text)
  | notification (mode : ParkingMode)
  deriving DecidableEq, Repr

namespace GatewayMessage

def con : GatewayMessage → Text
  | reply con => con
  | notification mode => mode.con.toList

def bytes (m : GatewayMessage) : Text := Gateway.reply "parking_mode".toList m.con

def mode : GatewayMessage → Option ParkingMode
  | reply _ => none
  | notification mode => some mode

/-- What stands before a `con`. -/
def opening : Text := "\x7b\"ctname\":\"parking_mode\",\"con\":\"".toList

theorem length_opening : opening.length = 32 := by decide

theorem not_numeral_opening {c : Char} (hc : c ∈ opening) : ¬ Numeral c := by
  have hall : opening.all (fun c => decide (¬ Numeral c)) = true := by decide
  exact of_decide_eq_true (List.all_eq_true.mp hall c hc)

theorem bytes_eq (m : GatewayMessage) : m.bytes = opening ++ m.con ++ ['"', '}'] := rfl

theorem length_bytes (m : GatewayMessage) : m.bytes.length = m.con.length + 34 := by
  rw [bytes_eq, List.length_append, List.length_append, length_opening]
  simp only [List.length_cons, List.length_nil]
  omega

/-- What is read of a whole message. -/
theorem slice_bytes (m : GatewayMessage) : ModeCheck.slice m.bytes = m.con := by
  have hlen : m.bytes.length - 2 = (opening ++ m.con).length := by
    rw [length_bytes, List.length_append, length_opening]
    omega
  unfold ModeCheck.slice
  rw [hlen, bytes_eq, List.take_left, ← length_opening, List.drop_left]

theorem int_notification (mode : ParkingMode) :
    int (notification mode).con = some (mode_num mode) := by
  cases mode <;> decide

theorem length_notification (mode : ParkingMode) : (notification mode).bytes.length = 35 := by
  cases mode <;> decide

theorem bytes_ne_nil (m : GatewayMessage) : m.bytes ≠ [] := by
  apply List.ne_nil_of_length_pos
  rw [length_bytes]
  omega

end GatewayMessage

open GatewayMessage

/-- The stream of some messages. -/
def gateway_stream (msgs : List GatewayMessage) : Text := msgs.flatMap GatewayMessage.bytes

/-- What a stream begins with is no number. -/
theorem gateway_stream_head {msgs : List GatewayMessage} {j : ℕ} {c : Char} (hj : j < 32)
    (h : (gateway_stream msgs)[j]? = some c) : ¬ Numeral c := by
  rcases msgs with _ | ⟨m, msgs⟩
  · simp [gateway_stream] at h
  · have hlt : j < opening.length := by
      rw [length_opening]
      exact hj
    have hsplit : gateway_stream (m :: msgs)
        = opening ++ (m.con ++ ['"', '}'] ++ gateway_stream msgs) := by
      simp [gateway_stream, bytes_eq]
    rw [hsplit, List.getElem?_append_left hlt] at h
    exact not_numeral_opening (List.mem_of_getElem? h)

/-- **Bytes of two messages raise**: the end of one and the beginning of the next. -/
theorem int_slice_merged {m : GatewayMessage} {msgs : List GatewayMessage} {t r : Text}
    (ht : t <:+ m.bytes) (htne : t ≠ []) (hr : r <+: gateway_stream msgs) (hrne : r ≠ []) :
    int (ModeCheck.slice (t ++ r)) = none := by
  have hk : 0 < r.length := List.length_pos_of_ne_nil hrne
  have hn : 0 < t.length := List.length_pos_of_ne_nil htne
  have hclose : ['"', '}'] <:+ m.bytes := by
    rw [bytes_eq]
    exact List.suffix_append _ _
  rcases Nat.lt_or_ge 34 (t ++ r).length with hlen | hlen
  · rw [List.length_append] at hlen
    rcases Nat.lt_or_ge t.length 33 with h33 | h33
    · -- what is read begins in the text before the next `con`
      obtain ⟨c, hc⟩ : ∃ c, r[32 - t.length]? = some c :=
        ⟨_, List.getElem?_eq_getElem (by omega)⟩
      have hread : (t ++ r)[32]? = some c := by
        rw [List.getElem?_append_right (by omega), hc]
      obtain ⟨r', hr'⟩ := hr
      have hstream : (gateway_stream msgs)[32 - t.length]? = some c := by
        rw [← hr', List.getElem?_append_left (by omega), hc]
      exact ModeCheck.int_slice_none (i := 32) le_rfl (by rw [List.length_append]; omega) hread
        (gateway_stream_head (by omega) hstream)
    · rcases Nat.lt_or_ge 33 t.length with h34 | h34
      · -- the closing quote is read
        have hsuffix : ['"', '}'] <:+ t := by
          apply List.suffix_of_suffix_length_le hclose ht
          simp only [List.length_cons, List.length_nil]
          omega
        obtain ⟨t', rfl⟩ := hsuffix
        simp only [List.length_append, List.length_cons, List.length_nil] at h34 hlen
        have hread : (t' ++ ['"', '}'] ++ r)[t'.length]? = some '"' := by simp
        exact ModeCheck.int_slice_none (by omega)
          (by simp only [List.length_append, List.length_cons, List.length_nil]; omega) hread
          (by decide)
      · -- the closing brace is read
        have hsuffix : ['}'] <:+ t := by
          have hbrace : ['}'] <:+ m.bytes := List.IsSuffix.trans (by decide) hclose
          apply List.suffix_of_suffix_length_le hbrace ht
          simp only [List.length_cons, List.length_nil]
          omega
        obtain ⟨t', rfl⟩ := hsuffix
        simp only [List.length_append, List.length_cons, List.length_nil] at h33 h34 hlen
        have hread : (t' ++ ['}'] ++ r)[t'.length]? = some '}' := by simp
        exact ModeCheck.int_slice_none (by omega)
          (by simp only [List.length_append, List.length_cons, List.length_nil]; omega) hread
          (by decide)
  · exact ModeCheck.int_slice_short hlen

/-! ## Reading the stream -/

/-- `ModeCheck` beside the stream: the messages that are not complete, each with what is
left of it, and the mode of the last notification that is complete. -/
structure Link where
  mode_check : ModeCheck
  left : List (GatewayMessage × Text)
  last : Option ParkingMode
  deriving DecidableEq, Repr

/-- Messages of which nothing has been received. -/
def untouched (msgs : List GatewayMessage) : List (GatewayMessage × Text) :=
  msgs.map fun m => (m, m.bytes)

theorem untouched_cons (m : GatewayMessage) (msgs : List GatewayMessage) :
    untouched (m :: msgs) = (m, m.bytes) :: untouched msgs := rfl

/-- What `n` bytes complete, and what they leave. -/
def advance : List (GatewayMessage × Text) → ℕ → List GatewayMessage × List (GatewayMessage × Text)
  | [], _ => ([], [])
  | (m, t) :: left, n =>
    if t.length ≤ n then (m :: (advance left (n - t.length)).1, (advance left (n - t.length)).2)
    else ([], (m, t.drop n) :: left)

namespace Link

/-- No message has been read, and nothing has been received. -/
def start (msgs : List GatewayMessage) : Link := ⟨.init, untouched msgs, none⟩

/-- What `recv` returns when it returns `n` bytes. -/
def chunk (s : Link) (n : ℕ) : Text := (s.left.flatMap Prod.snd).take n

/-- One `recv`. -/
def step (s : Link) (n : ℕ) : Link where
  mode_check := s.mode_check.recv (s.chunk n)
  left := (advance s.left (s.chunk n).length).2
  last := (((advance s.left (s.chunk n).length).1.filterMap mode).getLast?).or s.last

/-- What `info` is to be: the mode of the last notification that is complete, and nothing that
arms the system before there is one. -/
def Fits (last : Option ParkingMode) (info : Option ℤ) : Prop :=
  match last with
  | some mode => info = some (mode_num mode)
  | none => info ≠ some 1

instance (last : Option ParkingMode) (info : Option ℤ) : Decidable (Fits last info) :=
  match last with
  | some mode => inferInstanceAs (Decidable (info = some (mode_num mode)))
  | none => inferInstanceAs (Decidable (info ≠ some 1))

/-- `ModeCheck` is right about the mode: it has not raised, and `info` is what it is to be. -/
structure Tracked (s : Link) : Prop where
  alive : s.mode_check.raised = false
  fits : Fits s.last s.mode_check.info

/-- A `recv` that returns one whole notification, or bytes of a reply only, in which a
number stands where `ModeCheck` looks for it that `info` may be. -/
def Whole (s : Link) (n : ℕ) : Prop :=
  match s.left with
  | [] => False
  | (.notification _, t) :: _ => s.chunk n = t
  | (.reply _, t) :: _ =>
    s.chunk n <+: t ∧
      ∃ v, int (ModeCheck.slice (s.chunk n)) = some v ∧ Fits s.last (some v)

/-- The stream is cut within one message, and a notification has not been begun. -/
structure Inv (s : Link) : Prop where
  tracked : s.Tracked
  shape : s.left = [] ∨ ∃ m t msgs, s.left = (m, t) :: untouched msgs ∧
    t ≠ [] ∧ t <:+ m.bytes ∧ ∀ mode, m = .notification mode → t = m.bytes

theorem flatMap_left {m : GatewayMessage} {t : Text} (msgs : List GatewayMessage) :
    ((m, t) :: untouched msgs).flatMap Prod.snd = t ++ gateway_stream msgs := by
  rw [List.flatMap_cons, untouched, List.flatMap_map]
  rfl

/-- A `recv` returns bytes of the current message, or all that is left of it and more. -/
theorem chunk_cases {s : Link} {m : GatewayMessage} {t : Text} {msgs : List GatewayMessage}
    (h : s.left = (m, t) :: untouched msgs) (n : ℕ) :
    s.chunk n <+: t ∨ ∃ r, s.chunk n = t ++ r ∧ r ≠ [] ∧ r <+: gateway_stream msgs := by
  have hpre : s.chunk n <+: t ++ gateway_stream msgs := by
    unfold chunk
    rw [h, flatMap_left]
    exact List.take_prefix _ _
  rcases List.prefix_or_prefix_of_prefix hpre (List.prefix_append _ _) with h | ⟨r, hr⟩
  · exact Or.inl h
  · by_cases hnil : r = []
    · rw [← hr, hnil, List.append_nil]
      exact Or.inl (List.prefix_refl t)
    · rw [← hr, List.prefix_append_right_inj] at hpre
      exact Or.inr ⟨r, hr.symm, hnil, hpre⟩

/-- What a whole message leaves. -/
theorem advance_whole {m : GatewayMessage} {t : Text} {msgs : List GatewayMessage} :
    advance ((m, t) :: untouched msgs) t.length
      = ([m], untouched msgs) := by
  have hzero : advance (untouched msgs) 0
      = ([], untouched msgs) := by
    cases msgs with
    | nil => rfl
    | cons m' msgs =>
      have hpos := List.length_pos_of_ne_nil m'.bytes_ne_nil
      rw [untouched_cons, advance, if_neg (by omega), List.drop_zero]
  rw [advance, if_pos le_rfl, Nat.sub_self, hzero]

/-- The stream after a whole message. -/
theorem shape_untouched (msgs : List GatewayMessage) :
    untouched msgs = [] ∨ ∃ m t msgs',
      untouched msgs = (m, t) :: untouched msgs' ∧
        t ≠ [] ∧ t <:+ m.bytes ∧ ∀ mode, m = .notification mode → t = m.bytes := by
  cases msgs with
  | nil => exact Or.inl rfl
  | cons m msgs =>
    exact Or.inr ⟨m, m.bytes, msgs, rfl, m.bytes_ne_nil, List.suffix_refl _, fun _ _ => rfl⟩

theorem inv_start (msgs : List GatewayMessage) : (start msgs).Inv := by
  exact ⟨⟨rfl, (Option.some_ne_none (1 : ℤ)).symm⟩, shape_untouched msgs⟩

/-- Where `recv` returns one whole notification. -/
theorem inv_notification {s : Link} (hs : s.Inv) {mode : ParkingMode} {msgs : List GatewayMessage}
    (hleft : s.left
      = (.notification mode, (notification mode).bytes) :: untouched msgs)
    {n : ℕ} (hn : s.chunk n = (notification mode).bytes) : (s.step n).Inv := by
  have hint : int (ModeCheck.slice (s.chunk n)) = some (mode_num mode) := by
    rw [hn, slice_bytes, int_notification]
  have hrecv := ModeCheck.recv_of_some hs.tracked.alive hint
  have hadvance : advance s.left (s.chunk n).length
      = ([.notification mode], untouched msgs) := by
    rw [hleft, hn, advance_whole]
  unfold step
  rw [hrecv, hadvance]
  exact ⟨⟨rfl, rfl⟩, shape_untouched msgs⟩

/-- Where `recv` returns bytes of a reply. -/
theorem inv_reply {s : Link} (hs : s.Inv) {con t : Text} {msgs : List GatewayMessage}
    (hleft : s.left = (.reply con, t) :: untouched msgs)
    (ht : t <:+ (reply con).bytes) {n : ℕ} (hn : s.chunk n <+: t) {v : ℤ}
    (hint : int (ModeCheck.slice (s.chunk n)) = some v) (hv : Fits s.last (some v)) :
    (s.step n).Inv := by
  have hrecv := ModeCheck.recv_of_some hs.tracked.alive hint
  unfold step
  rw [hrecv]
  rcases Nat.lt_or_ge (s.chunk n).length t.length with hlt | hge
  · have hadvance : advance s.left (s.chunk n).length
        = ([], (.reply con, t.drop (s.chunk n).length) :: untouched msgs) := by
      rw [hleft, advance, if_neg (by omega)]
    rw [hadvance]
    refine ⟨⟨rfl, hv⟩, Or.inr ⟨_, _, msgs, rfl, ?_, ?_, ?_⟩⟩
    · apply List.ne_nil_of_length_pos
      rw [List.length_drop]
      omega
    · exact (List.drop_suffix _ t).trans ht
    · intro mode hmode
      exact absurd hmode (by simp)
  · have heq : s.chunk n = t := hn.eq_of_length_le hge
    have hadvance : advance s.left (s.chunk n).length
        = ([.reply con], untouched msgs) := by
      rw [hleft, heq, advance_whole]
    rw [hadvance]
    exact ⟨⟨rfl, hv⟩, shape_untouched msgs⟩

/-- **One `recv` in order.** -/
theorem inv_step {s : Link} (hs : s.Inv) {n : ℕ} (hn : s.Whole n) : (s.step n).Inv := by
  unfold Whole at hn
  rcases hs.shape with hnil | ⟨m, t, msgs, hleft, -, hsuffix, hwhole⟩
  · rw [hnil] at hn
    exact absurd hn not_false
  · rw [hleft] at hn
    cases m with
    | notification mode =>
      obtain rfl := hwhole mode rfl
      exact inv_notification hs hleft hn
    | reply con =>
      obtain ⟨hpre, v, hint, hv⟩ := hn
      exact inv_reply hs hleft hsuffix hpre hint hv

/-- A `recv` after which `int` fails. -/
theorem not_tracked_of_none {s : Link} (hs : s.Inv) {n : ℕ}
    (h : int (ModeCheck.slice (s.chunk n)) = none) : ¬ (s.step n).Tracked := by
  intro htracked
  have hraised := ModeCheck.recv_of_none hs.tracked.alive h
  have halive := htracked.alive
  rw [step, hraised] at halive
  exact absurd halive (by decide)

/-- **One `recv` out of order.** -/
theorem not_tracked_step {s : Link} (hs : s.Inv) {n : ℕ} (hn : ¬ s.Whole n) :
    ¬ (s.step n).Tracked := by
  unfold Whole at hn
  rcases hs.shape with hnil | ⟨m, t, msgs, hleft, hne, hsuffix, hwhole⟩
  · -- there is nothing left to read
    apply not_tracked_of_none hs
    unfold chunk
    rw [hnil]
    apply ModeCheck.int_slice_short
    simp
  · rw [hleft] at hn
    rcases chunk_cases hleft n with hpre | ⟨r, hr, hrne, hrs⟩
    · cases m with
      | notification mode =>
        -- a part of a notification
        obtain rfl := hwhole mode rfl
        apply not_tracked_of_none hs
        apply ModeCheck.int_slice_short
        have hlen := length_notification mode
        by_contra hlong
        exact hn (hpre.eq_of_length_le (by omega))
      | reply con =>
        rcases hint : int (ModeCheck.slice (s.chunk n)) with _ | v
        · exact not_tracked_of_none hs hint
        · -- the number is another one than that of the mode
          intro htracked
          apply hn
          refine ⟨hpre, v, hint, ?_⟩
          have hfits := htracked.fits
          have hlast : (s.step n).last = s.last := by
            unfold step
            dsimp only
            rcases Nat.lt_or_ge (s.chunk n).length t.length with hlt | hge
            · rw [hleft, advance, if_neg (by omega)]
              rfl
            · rw [hleft, hpre.eq_of_length_le hge, advance_whole]
              rfl
          rw [hlast, step, ModeCheck.recv_of_some hs.tracked.alive hint] at hfits
          exact hfits
    · -- bytes of two messages
      apply not_tracked_of_none hs
      rw [hr]
      exact int_slice_merged hsuffix hne hrs hrne

/-- **When the mode is tracked.** For every sequence of messages and every way the stream
is cut: `ModeCheck` is right about the mode after every `recv` exactly when every `recv`
returns one whole notification, or bytes of a reply only that read as the mode of the last one,
or as a number other than `1` before the first. -/
theorem tracked_iff (msgs : List GatewayMessage) (cuts : List ℕ) :
    (∀ pre, pre <+: cuts → (run step (start msgs) pre).Tracked)
      ↔ Steps step Whole (start msgs) cuts :=
  forall_prefix_iff_steps (C := Whole) (P := Tracked)
    (fun s _ (hs : s.Inv) hn => inv_step hs hn) (fun _ hs => hs.tracked)
    (fun _ _ hs hn => not_tracked_step hs hn) (inv_start msgs) cuts

/-! ## One message each -/

/-- A way to cut the whole stream into results of `recv(1024)`. -/
def Cuts (msgs : List GatewayMessage) (cuts : List ℕ) : Prop :=
  (∀ n ∈ cuts, 0 < n ∧ n ≤ 1024) ∧ cuts.sum = (gateway_stream msgs).length

instance (msgs : List GatewayMessage) (cuts : List ℕ) : Decidable (Cuts msgs cuts) :=
  inferInstanceAs (Decidable (_ ∧ _))

/-- Each reply is the number of the mode of the last notification before it, or one other than `1`
where there is none. -/
def RepliesFit : Option ParkingMode → List GatewayMessage → Prop
  | _, [] => True
  | last, .reply con :: msgs =>
    (∃ v, int con = some v ∧ Fits last (some v)) ∧ RepliesFit last msgs
  | _, .notification mode :: msgs => RepliesFit (some mode) msgs

/-- What is left after a whole message. -/
theorem step_whole {s : Link} {m : GatewayMessage} {msgs : List GatewayMessage}
    (hleft : s.left = untouched (m :: msgs)) {n : ℕ} (hn : n = m.bytes.length) :
    s.chunk n = m.bytes ∧ (s.step n).left = untouched msgs ∧
      (s.step n).last = m.mode.or s.last := by
  have hchunk : s.chunk n = m.bytes := by
    unfold chunk
    rw [hleft, untouched_cons, flatMap_left, hn, List.take_left]
  have hadvance : advance s.left (s.chunk n).length = ([m], untouched msgs) := by
    rw [hleft, hchunk]
    exact advance_whole
  unfold step
  rw [hadvance]
  refine ⟨hchunk, rfl, ?_⟩
  cases m <;> rfl

/-- The chunk of a message and what follows it. -/
theorem length_chunk {s : Link} {m : GatewayMessage} {msgs : List GatewayMessage}
    (hleft : s.left = untouched (m :: msgs)) (n : ℕ) :
    (s.chunk n).length = min n (m.bytes.length + (gateway_stream msgs).length) := by
  unfold chunk
  rw [hleft, untouched_cons, flatMap_left, List.length_take, List.length_append]

/-- The second part of a short reply has no room for a number. -/
theorem length_of_whole {s : Link} {m : GatewayMessage} {msgs : List GatewayMessage}
    (hleft : s.left = untouched (m :: msgs)) (hshort : ∀ con, m = .reply con → con.length ≤ 34)
    {n : ℕ} {cuts : List ℕ}
    (hsum : n + cuts.sum = m.bytes.length + (gateway_stream msgs).length)
    (h : Steps step Whole s (n :: cuts)) : n = m.bytes.length := by
  obtain ⟨hwhole, hrest⟩ := h
  have hlen : (s.chunk n).length = n := by
    rw [length_chunk hleft]
    omega
  unfold Whole at hwhole
  rw [hleft, untouched_cons] at hwhole
  cases m with
  | notification mode =>
    rw [hwhole] at hlen
    exact hlen.symm
  | reply con =>
    obtain ⟨hpre, v, hint, -⟩ := hwhole
    have hle := hpre.length_le
    have hcon := hshort con rfl
    have hbytes : (reply con).bytes.length = con.length + 34 := length_bytes (reply con)
    have hlong : 34 < n := by
      by_contra hle'
      rw [ModeCheck.int_slice_short (by omega)] at hint
      exact absurd hint (by simp)
    by_contra hn
    have hleft' : (s.step n).left
        = (.reply con, (reply con).bytes.drop n) :: untouched msgs := by
      change (advance s.left (s.chunk n).length).2 = _
      rw [hleft, untouched_cons, hlen, advance, if_neg (by omega)]
    cases cuts with
    | nil =>
      rw [List.sum_nil] at hsum
      omega
    | cons n' cuts =>
      have hwhole' := hrest.1
      unfold Whole at hwhole'
      rw [hleft'] at hwhole'
      obtain ⟨hpre', v', hint', -⟩ := hwhole'
      have hle' := hpre'.length_le
      rw [List.length_drop] at hle'
      rw [ModeCheck.int_slice_short (by omega)] at hint'
      exact absurd hint' (by simp)

theorem steps_whole_iff {msgs : List GatewayMessage}
    (hshort : ∀ con, .reply con ∈ msgs → con.length ≤ 34) {s : Link}
    (hleft : s.left = untouched msgs) {cuts : List ℕ}
    (hsum : cuts.sum = (gateway_stream msgs).length) :
    Steps step Whole s cuts
      ↔ cuts = msgs.map (fun m => m.bytes.length) ∧ RepliesFit s.last msgs := by
  induction msgs generalizing s cuts with
  | nil =>
    cases cuts with
    | nil => simp [RepliesFit]
    | cons n cuts => simp [Whole, hleft, untouched]
  | cons m msgs ih =>
    have hstream : (gateway_stream (m :: msgs)).length
        = m.bytes.length + (gateway_stream msgs).length := List.length_append
    have hpos := List.length_pos_of_ne_nil m.bytes_ne_nil
    rw [hstream] at hsum
    cases cuts with
    | nil =>
      rw [List.sum_nil] at hsum
      omega
    | cons n cuts =>
      rw [List.sum_cons] at hsum
      by_cases hn : n = m.bytes.length
      · obtain ⟨hchunk, hleft', hlast⟩ := step_whole hleft hn
        have hshort' : ∀ con, .reply con ∈ msgs → con.length ≤ 34 :=
          fun con hcon => hshort con (List.mem_cons_of_mem _ hcon)
        rw [steps_cons, ih hshort' hleft' (by omega), hlast, List.map_cons, hn]
        unfold Whole
        rw [hleft, untouched_cons, ← hn, hchunk]
        cases m with
        | notification mode => simp [RepliesFit, GatewayMessage.mode]
        | reply con =>
          have hslice := slice_bytes (.reply con)
          simp only [hslice, List.prefix_refl, true_and, List.cons.injEq, RepliesFit,
            GatewayMessage.mode, Option.none_or, GatewayMessage.con]
          exact and_left_comm
      · constructor
        · intro h
          refine absurd (length_of_whole hleft ?_ hsum h) hn
          intro con hcon
          exact hshort con (hcon ▸ List.mem_cons_self)
        · rintro ⟨hcuts, -⟩
          rw [List.map_cons, List.cons.injEq] at hcuts
          exact absurd hcuts.1 hn

/-- **One message each.** When no reply is longer than 34 characters, as a status code
is not, `ModeCheck` is right about the mode all along exactly when each `recv` returns
one message and the replies fit. -/
theorem tracked_iff_one_each (msgs : List GatewayMessage) (cuts : List ℕ)
    (hshort : ∀ con, .reply con ∈ msgs → con.length ≤ 34) (hcuts : Cuts msgs cuts) :
    (∀ pre, pre <+: cuts → (run step (start msgs) pre).Tracked)
      ↔ cuts = msgs.map (fun m => m.bytes.length) ∧ RepliesFit none msgs := by
  rw [tracked_iff]
  exact steps_whole_iff hshort rfl hcuts.2

/-- Not so for a notification in two parts, for two notifications at once, and for the
reply `2001` after the mode `1` or `0`. -/
theorem mode_lost :
    (Cuts [.notification .parking] [20, 15] ∧ ¬ ∀ pre, pre <+: [20, 15] →
      (run step (start [.notification .parking]) pre).Tracked) ∧
    (Cuts [.notification .parking, .notification .driving] [70] ∧ ¬ ∀ pre, pre <+: [70] →
      (run step (start [.notification .parking, .notification .driving]) pre).Tracked) ∧
    (Cuts [.notification .parking, .reply "2001".toList] [35, 38] ∧ ¬ ∀ pre, pre <+: [35, 38] →
      (run step (start [.notification .parking, .reply "2001".toList]) pre).Tracked) ∧
    (Cuts [.notification .driving, .reply "2001".toList] [35, 38] ∧ ¬ ∀ pre, pre <+: [35, 38] →
      (run step (start [.notification .driving, .reply "2001".toList]) pre).Tracked) := by
  refine ⟨⟨by decide +kernel, ?_⟩, ⟨by decide +kernel, ?_⟩, ⟨by decide +kernel, ?_⟩,
    ⟨by decide +kernel, ?_⟩⟩
  · intro h
    have halive := (h [20] (by decide)).alive
    revert halive
    decide +kernel
  · intro h
    have halive := (h [70] (by decide)).alive
    revert halive
    decide +kernel
  · intro h
    have hfits := (h [35, 38] (by decide)).fits
    revert hfits
    decide +kernel
  · intro h
    have hfits := (h [35, 38] (by decide)).fits
    revert hfits
    decide +kernel

end Link

end SmartBike.Parking
