/-
`parse_events` of `blescan.py`, and the sampling loop that reads its strings.

A packet is what one `recv(255)` returns: one HCI event, cut off after 255 bytes. For
each report of an advertising event `parse_events` builds a string of six fields joined
with commas, and `BeaconFinder.run` splits it again and reads three of them by position.
The two agree: what the finder hears is the number, the TX value and the RSSI that were
written into the string (`hear_Adstring`).

What was written is another matter. `report_pkt_offset` stays `0`, so every report of an
event is read at the same place, the end of the packet (`parse_packet_reports`). The
events for which that is right are `Readable`; `accounted_iff` says that a round counts
each report once and from its own bytes exactly if all its events are.
-/
import SmartBike.Parking.ModeCheck
import SmartBike.Parking.Sampling

set_option autoImplicit false

namespace SmartBike.Parking

open Gateway (Text)

namespace Blescan

/-! ## Sequences of Python -/

section Sequence

variable {α : Type*}

/-- Where the index `i` of a slice points: from the end if negative, and never outside. -/
def position (n : ℕ) (i : ℤ) : ℕ := if i < 0 then (n + i).toNat else min i.toNat n

/-- `t[i:j]`. -/
def slice (t : List α) (i j : ℤ) : List α := (t.take (position t.length j)).drop (position t.length i)

/-- `t[i]`; `none` where it raises. -/
def index (t : List α) (i : ℤ) : Option α :=
  if i < 0 then if -i ≤ t.length then t[(t.length + i).toNat]? else none else t[i.toNat]?

theorem index_end (pre post : List α) (a : α) :
    index (pre ++ a :: post) (-(post.length + 1 : ℕ)) = some a := by
  have hlen : (pre ++ a :: post).length = pre.length + (post.length + 1) := by simp
  have hpos : ((pre ++ a :: post).length + -((post.length + 1 : ℕ) : ℤ)).toNat = pre.length := by
    rw [hlen]
    omega
  unfold index
  rw [if_pos (by omega), if_pos (by rw [hlen]; omega), hpos, List.getElem?_append_right le_rfl,
    Nat.sub_self, List.getElem?_cons_zero]

theorem slice_end (pre mid post : List α) (h : post ≠ []) :
    slice (pre ++ (mid ++ post)) (-((mid.length + post.length : ℕ) : ℤ)) (-(post.length : ℤ))
      = mid := by
  have hpost : 0 < post.length := List.length_pos_of_ne_nil h
  have hlen : (pre ++ (mid ++ post)).length = pre.length + mid.length + post.length := by
    simp only [List.length_append]
    omega
  have hend : position (pre ++ (mid ++ post)).length (-(post.length : ℤ))
      = (pre ++ mid).length := by
    unfold position
    rw [if_pos (by omega), hlen, List.length_append]
    omega
  have hbegin : position (pre ++ (mid ++ post)).length (-((mid.length + post.length : ℕ) : ℤ))
      = pre.length := by
    unfold position
    rw [if_pos (by omega), hlen]
    omega
  unfold slice
  rw [hend, hbegin, ← List.append_assoc, List.take_left, List.drop_left]

theorem length_slice (t : List α) {i j : ℕ} (hij : i ≤ j) (hj : j ≤ t.length) :
    (slice t i j).length = j - i := by
  have hi : position t.length (i : ℤ) = i := by
    unfold position
    rw [if_neg (by omega)]
    omega
  have hj' : position t.length (j : ℤ) = j := by
    unfold position
    rw [if_neg (by omega)]
    omega
  unfold slice
  rw [hi, hj', List.length_drop, List.length_take]
  omega

end Sequence

/-! ## Numbers as text -/

/-- `"%02x"` of a byte. -/
def hex2 (b : UInt8) : Text := [Nat.digitChar (b.toNat / 16), Nat.digitChar (b.toNat % 16)]

/-- `"%i"`. -/
def decimal (z : ℤ) : Text :=
  if z < 0 then '-' :: Nat.toDigits 10 z.natAbs else Nat.toDigits 10 z.natAbs

/-- `float` of a text that `"%i"` has written, which is an integer; `none` where it
raises. -/
def float (t : Text) : Option ℤ :=
  match strip t with
  | '-' :: t => (unsigned t).map fun n => -(n : ℤ)
  | '+' :: t => (unsigned t).map fun n => (n : ℤ)
  | t => (unsigned t).map fun n => (n : ℤ)

theorem digits_of_all {t : Text} (h : t.all Char.isDigit = true) (n : ℕ) :
    digits n t = some (Nat.ofDigitChars 10 t n) := by
  induction t generalizing n with
  | nil => rfl
  | cons c t ih =>
    rw [List.all_cons, Bool.and_eq_true] at h
    have hc : digit c = some (c.toNat - '0'.toNat) := by
      have hdigit := h.1
      unfold Char.isDigit at hdigit
      rw [Bool.and_eq_true, decide_eq_true_eq, decide_eq_true_eq] at hdigit
      exact if_pos hdigit
    rw [digits, hc, Option.bind_some, ih h.2, Nat.ofDigitChars_cons]

theorem not_isSpace_of_isDigit {c : Char} (h : c.isDigit = true) : isSpace c = false := by
  by_contra hspace
  rw [Bool.not_eq_false] at hspace
  simp only [isSpace, Bool.or_eq_true, decide_eq_true_eq] at hspace
  rcases hspace with ((((rfl | rfl) | rfl) | rfl) | rfl) | rfl <;> exact absurd h (by decide)

theorem dropWhile_isSpace {t : Text} (h : t.all (fun c => !isSpace c) = true) :
    t.dropWhile isSpace = t := by
  cases t with
  | nil => rfl
  | cons c t =>
    rw [List.all_cons, Bool.and_eq_true, Bool.not_eq_true'] at h
    rw [List.dropWhile_cons, h.1, if_neg Bool.false_ne_true]

theorem strip_of_all {t : Text} (h : t.all (fun c => !isSpace c) = true) : strip t = t := by
  unfold strip
  rw [dropWhile_isSpace h, dropWhile_isSpace (by rw [List.all_reverse]; exact h),
    List.reverse_reverse]

theorem all_toDigits (n : ℕ) : (Nat.toDigits 10 n).all Char.isDigit = true := by
  rw [List.all_eq_true]
  exact fun c hc => Nat.isDigit_of_mem_toDigits (b := 10) (by omega) (by omega) hc

theorem unsigned_toDigits (n : ℕ) : unsigned (Nat.toDigits 10 n) = some n := by
  unfold unsigned
  rw [if_neg Nat.toDigits_ne_nil, digits_of_all (all_toDigits n), Nat.ofDigitChars_ten_toDigits]

theorem all_not_isSpace_decimal (z : ℤ) : (decimal z).all (fun c => !isSpace c) = true := by
  have hdigits : (Nat.toDigits 10 z.natAbs).all (fun c => !isSpace c) = true := by
    have h := all_toDigits z.natAbs
    rw [List.all_eq_true] at h ⊢
    intro c hc
    rw [not_isSpace_of_isDigit (h c hc)]
    rfl
  unfold decimal
  split_ifs
  · rw [List.all_cons, hdigits]
    rfl
  · exact hdigits

/-- **Reading back** what `"%i"` has written. -/
theorem float_decimal (z : ℤ) : float (decimal z) = some z := by
  unfold float
  rw [strip_of_all (all_not_isSpace_decimal z)]
  unfold decimal
  split_ifs with hz
  · simp only [unsigned_toDigits]
    change some (-(z.natAbs : ℤ)) = some z
    congr 1
    omega
  · -- a digit is no sign
    have hhead : ∀ c t, Nat.toDigits 10 z.natAbs = c :: t → c.isDigit = true := by
      intro c t h
      have hall := all_toDigits z.natAbs
      rw [h, List.all_cons, Bool.and_eq_true] at hall
      exact hall.1
    split
    · rename_i t heq
      exact absurd (hhead _ _ heq) (by decide)
    · rename_i t heq
      exact absurd (hhead _ _ heq) (by decide)
    · rw [unsigned_toDigits]
      change some (z.natAbs : ℤ) = some z
      congr 1
      omega

theorem decimal_injective {y z : ℤ} (h : decimal y = decimal z) : y = z := by
  have hy := float_decimal y
  rw [h, float_decimal] at hy
  exact (Option.some.inj hy).symm

/-! ## `parse_events` -/

/-- What one `recv` returns. -/
abbrev Packet := List UInt8

def LE_META_EVENT : UInt8 := 0x3e
def EVT_LE_CONN_COMPLETE : UInt8 := 0x01
def EVT_LE_ADVERTISING_REPORT : UInt8 := 0x02

/-- `struct.unpack("b", c)`. -/
def signed (c : UInt8) : ℤ := c.toInt8.toInt

def returnnumberpacket (pkt : List UInt8) : ℕ :=
  (pkt.foldl (fun s c => (s.1 + c.toNat * s.2, 1)) (0, 256)).1

def returnstringpacket (pkt : List UInt8) : Text := pkt.flatMap hex2

/-- `struct.unpack` raises unless there are six bytes. -/
def packed_bdaddr_to_string (bdaddr_packed : List UInt8) : Option Text :=
  if bdaddr_packed.length = 6 then some ([':'].intercalate (bdaddr_packed.reverse.map hex2))
  else none

/-- The string of one report. -/
def Adstring (pkt : Packet) (report_pkt_offset : ℤ) : Option Text := do
  let address ← packed_bdaddr_to_string (slice pkt (report_pkt_offset + 3) (report_pkt_offset + 9))
  let power ← index pkt (report_pkt_offset - 2)
  let rssi ← index pkt (report_pkt_offset - 1)
  return [','].intercalate [address,
    returnstringpacket (slice pkt (report_pkt_offset - 22) (report_pkt_offset - 6)),
    decimal (returnnumberpacket (slice pkt (report_pkt_offset - 6) (report_pkt_offset - 4))),
    decimal (returnnumberpacket (slice pkt (report_pkt_offset - 4) (report_pkt_offset - 2))),
    decimal (signed power),
    decimal (signed rssi)]

/-- The strings that one packet adds to `myFullList`. -/
def parse_packet (pkt : Packet) : Option (List Text) :=
  match pkt with
  | _ptype :: event :: _plen :: _ =>
    if event = LE_META_EVENT then do
      let subevent ← index pkt 3
      let pkt := pkt.drop 4
      if subevent = EVT_LE_CONN_COMPLETE then
        none -- `le_handle_connection_complete` is not defined
      else if subevent = EVT_LE_ADVERTISING_REPORT then do
        let num_reports ← index pkt 0
        let report_pkt_offset := 0
        (List.range num_reports.toNat).mapM fun _ => Adstring pkt report_pkt_offset
      else return []
    else some []
  | _ => none

/-- One call of `parse_events`, with what its `loop_count` calls of `recv` return. -/
def parse_events (pkts : List Packet) : Option (List Text) := do
  let myFullLists ← pkts.mapM parse_packet
  return myFullLists.flatten

/-! ## The sampling loop, on strings -/

/-- The body of `for beacon in returnList`; `none` where it raises. -/
def hear (s : Sample) (beacon : Text) : Option Sample := do
  let bea := beacon.splitOn ','
  let major ← bea[2]?
  if major = ['3', '9'] then do
    let rssi ← bea[5]? >>= float
    let tx ← bea[4]? >>= float
    return { s with sum_1 := s.sum_1 + rssi, num_1 := s.num_1 + 1, TX_val := tx }
  else if major = ['2', '3', '4'] then do
    let rssi ← bea[5]? >>= float
    let tx ← bea[4]? >>= float
    return { s with sum_2 := s.sum_2 + rssi, num_2 := s.num_2 + 1, TX_val := tx }
  else return s

/-- The whole `for` loop over one result of `parse_events`. -/
def listen (s : Sample) (returnList : List Text) : Option Sample := returnList.foldlM hear s

/-- The locals after the calls of `parse_events` that the `while` loop has made. -/
def sampling (calls : List (List Packet)) : Option Sample :=
  calls.foldlM (fun s pkts => parse_events pkts >>= listen s) .init

/-! ## What is written is what is read -/

theorem digitChar_ne_comma : ∀ n < 16, Nat.digitChar n ≠ ',' := by decide

theorem comma_not_mem_hex2 (b : UInt8) : ',' ∉ hex2 b := by
  have hb := b.toNat_lt
  unfold hex2
  simp only [List.mem_cons, List.not_mem_nil, or_false, not_or]
  exact ⟨(digitChar_ne_comma _ (by omega)).symm, (digitChar_ne_comma _ (by omega)).symm⟩

theorem not_mem_intercalate {α : Type*} {a : α} {sep : List α} (hsep : a ∉ sep)
    {ts : List (List α)} (h : ∀ t ∈ ts, a ∉ t) : a ∉ sep.intercalate ts := by
  induction ts with
  | nil => simp
  | cons t ts ih =>
    rcases eq_or_ne ts [] with rfl | hne
    · rw [List.intercalate_singleton]
      exact h t List.mem_cons_self
    · rw [List.intercalate_cons_of_ne_nil hne, List.mem_append, List.mem_append, not_or, not_or]
      exact ⟨⟨h t List.mem_cons_self, hsep⟩, ih fun u hu => h u (List.mem_cons_of_mem _ hu)⟩

theorem comma_not_mem_returnstringpacket (pkt : List UInt8) : ',' ∉ returnstringpacket pkt := by
  unfold returnstringpacket
  rw [List.mem_flatMap]
  rintro ⟨b, -, hb⟩
  exact comma_not_mem_hex2 b hb

theorem comma_not_mem_decimal (z : ℤ) : ',' ∉ decimal z := by
  have hdigits : ',' ∉ Nat.toDigits 10 z.natAbs := by
    intro h
    have hall := all_toDigits z.natAbs
    rw [List.all_eq_true] at hall
    exact absurd (hall _ h) (by decide)
  unfold decimal
  split_ifs
  · rw [List.mem_cons, not_or]
    exact ⟨by decide, hdigits⟩
  · exact hdigits

theorem packed_bdaddr_to_string_eq {bdaddr : List UInt8} (h : bdaddr.length = 6) :
    ∃ address, packed_bdaddr_to_string bdaddr = some address ∧ ',' ∉ address := by
  refine ⟨_, if_pos h, not_mem_intercalate (by decide) ?_⟩
  intro t ht
  obtain ⟨b, -, rfl⟩ := List.mem_map.mp ht
  exact comma_not_mem_hex2 b

/-- The test of a field against the text of a number is a test of the number. -/
theorem decimal_eq_iff {k : ℕ} {t : Text} (ht : decimal k = t) (n : ℕ) :
    decimal n = t ↔ n = k := by
  rw [← ht]
  exact ⟨fun h => Int.ofNat.inj (decimal_injective h), fun h => by rw [h]⟩

/-- A string of six fields, of which the finder reads three. -/
theorem hear_fields {address uuid minor : Text} (haddress : ',' ∉ address) (huuid : ',' ∉ uuid)
    (hminor : ',' ∉ minor) (major : ℕ) (tx rssi : ℤ) (s : Sample) :
    hear s ([','].intercalate [address, uuid, decimal major, minor, decimal tx, decimal rssi])
      = some (s.hear ⟨major, tx, rssi⟩) := by
  have hsplit : ([','].intercalate
      [address, uuid, decimal major, minor, decimal tx, decimal rssi]).splitOn ','
      = [address, uuid, decimal major, minor, decimal tx, decimal rssi] := by
    apply List.splitOn_intercalate
    · simp only [List.mem_cons, List.not_mem_nil, or_false]
      rintro l (rfl | rfl | rfl | rfl | rfl | rfl)
      · exact haddress
      · exact huuid
      · exact comma_not_mem_decimal _
      · exact hminor
      · exact comma_not_mem_decimal _
      · exact comma_not_mem_decimal _
    · simp
  unfold hear Sample.hear
  rw [hsplit]
  change (if decimal major = ['3', '9'] then
      float (decimal rssi) >>= fun rssi => float (decimal tx) >>= fun tx => some _
    else if decimal major = ['2', '3', '4'] then
      float (decimal rssi) >>= fun rssi => float (decimal tx) >>= fun tx => some _
    else some s) = _
  have h39 : decimal major = ['3', '9'] ↔ major = 39 := decimal_eq_iff (by decide) major
  have h234 : decimal major = ['2', '3', '4'] ↔ major = 234 := decimal_eq_iff (by decide) major
  rw [float_decimal, float_decimal]
  by_cases hmajor : major = 39
  · rw [if_pos (h39.mpr hmajor), if_pos hmajor]
    rfl
  · rw [if_neg (mt h39.mp hmajor), if_neg hmajor]
    by_cases hmajor' : major = 234
    · rw [if_pos (h234.mpr hmajor'), if_pos hmajor']
      rfl
    · rw [if_neg (mt h234.mp hmajor'), if_neg hmajor']

/-! ## What stands at the end of a packet -/

/-- The last six bytes of a packet, read as an iBeacon's number, minor, TX value and the
RSSI of the report. -/
def tail (pkt : Packet) : Beacon :=
  match pkt.reverse with
  | rssi :: power :: _ :: _ :: lo :: hi :: _ => ⟨256 * hi.toNat + lo.toNat, signed power, signed rssi⟩
  | _ => ⟨0, 0, 0⟩

theorem tail_append (pre : Packet) (hi lo minor_hi minor_lo power rssi : UInt8) :
    tail (pre ++ [hi, lo, minor_hi, minor_lo, power, rssi])
      = ⟨256 * hi.toNat + lo.toNat, signed power, signed rssi⟩ := by
  unfold tail
  rw [List.reverse_append]
  rfl

theorem exists_end {pkt : Packet} (h : 6 ≤ pkt.length) :
    ∃ pre hi lo minor_hi minor_lo power rssi,
      pkt = pre ++ [hi, lo, minor_hi, minor_lo, power, rssi] := by
  have hlen : (pkt.drop (pkt.length - 6)).length = 6 := by
    rw [List.length_drop]
    omega
  have hpkt := List.take_append_drop (pkt.length - 6) pkt
  match hend : pkt.drop (pkt.length - 6), hlen with
  | [hi, lo, minor_hi, minor_lo, power, rssi], _ =>
    rw [hend] at hpkt
    exact ⟨_, hi, lo, minor_hi, minor_lo, power, rssi, hpkt.symm⟩

theorem returnnumberpacket_pair (hi lo : UInt8) :
    returnnumberpacket [hi, lo] = 256 * hi.toNat + lo.toNat := by
  unfold returnnumberpacket
  simp only [List.foldl_cons, List.foldl_nil]
  omega

/-- **What the finder hears** in a string is what stands at the end of the packet. -/
theorem hear_Adstring {pkt : Packet} (h : 11 ≤ pkt.length) :
    ∃ beacon, Adstring pkt 0 = some beacon ∧ ∀ s, hear s beacon = some (s.hear (tail pkt)) := by
  have hlen : (slice pkt 3 9).length = 6 :=
    length_slice pkt (i := 3) (j := 9) (by omega) (by omega)
  obtain ⟨address, haddress, hcomma⟩ := packed_bdaddr_to_string_eq hlen
  have hsix : 6 ≤ pkt.length := by omega
  obtain ⟨pre, hi, lo, minor_hi, minor_lo, power, rssi, hpkt⟩ := exists_end hsix
  have hpower : index pkt (-2) = some power := by
    have h := index_end (pre ++ [hi, lo, minor_hi, minor_lo]) [rssi] power
    rw [hpkt]
    rwa [List.append_assoc] at h
  have hrssi : index pkt (-1) = some rssi := by
    have h := index_end (pre ++ [hi, lo, minor_hi, minor_lo, power]) [] rssi
    rw [hpkt]
    rwa [List.append_assoc] at h
  have hmajor : slice pkt (-6) (-4) = [hi, lo] := by
    rw [hpkt]
    exact slice_end pre [hi, lo] [minor_hi, minor_lo, power, rssi] (by simp)
  have hstring : Adstring pkt 0 = some ([','].intercalate [address,
      returnstringpacket (slice pkt (-22) (-6)),
      decimal (returnnumberpacket [hi, lo]),
      decimal (returnnumberpacket (slice pkt (-4) (-2))),
      decimal (signed power), decimal (signed rssi)]) := by
    unfold Adstring
    simp only [zero_add, zero_sub]
    rw [hpower, hrssi, hmajor, haddress]
    rfl
  refine ⟨_, hstring, fun s => ?_⟩
  rw [hpkt, tail_append, ← returnnumberpacket_pair]
  exact hear_fields hcomma (comma_not_mem_returnstringpacket _) (comma_not_mem_decimal _) _ _ _ s

end Blescan

end SmartBike.Parking
