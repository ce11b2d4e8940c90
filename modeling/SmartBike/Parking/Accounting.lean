/-
From HCI events to the sums of a sampling round.

An advertising event carries reports one behind the other, each with its own length
(`Report.bytes`; `evt_le_advertising_report_dump` of the BlueZ sources reads them so). What
a round should count is said of the reports, `Report.iBeacon`: number, TX value and RSSI of
an iBeacon frame, from the report's own bytes.

`parse_packet` gives a string for each report, but all strings of an event are the same
(`parse_packet_reports`). So the strings are the reports' own exactly if the end of the
packet says of every report which of the two beacons it is of, and with which values.
-/
import SmartBike.Parking.Blescan

set_option autoImplicit false

namespace SmartBike.Parking

open Gateway (Text)

namespace Blescan

/-! ## HCI events -/

/-- One report of an advertising event. -/
structure Report where
  evt_type : UInt8
  bdaddr_type : UInt8
  bdaddr : List UInt8
  data : List UInt8
  rssi : UInt8
  bdaddr_length : bdaddr.length = 6
  data_length : data.length ≤ 31

namespace Report

/-- A `le_advertising_info` and the RSSI behind it. -/
def bytes (r : Report) : List UInt8 :=
  r.evt_type :: r.bdaddr_type :: (r.bdaddr ++ UInt8.ofNat r.data.length :: (r.data ++ [r.rssi]))

/-- The iBeacon advertisement in a report: flags, then 26 bytes of manufacturer data with
a fixed beginning, UUID, number, minor and TX value. -/
def iBeacon (r : Report) : Option Beacon :=
  if r.data.take 2 = [0x02, 0x01] ∧
      (r.data.drop 3).take 6 = [0x1a, 0xff, 0x4c, 0x00, 0x02, 0x15] then
    match r.data.drop 25 with
    | [hi, lo, _, _, power] => some ⟨256 * hi.toNat + lo.toNat, signed power, signed r.rssi⟩
    | _ => none
  else none

theorem length_bytes (r : Report) : r.bytes.length = r.data.length + 10 := by
  unfold bytes
  simp only [List.length_cons, List.length_append, r.bdaddr_length, List.length_nil]
  omega

end Report

/-- A well-formed event, in its three kinds for `parse_events`. Parameters fill 255 bytes
at most. -/
inductive HciEvent where
  | le_advertising_report (reports : List Report) (some_report : reports ≠ [])
      (fits : (reports.flatMap Report.bytes).length ≤ 253)
  | le_meta (subevent : UInt8) (params : List UInt8)
      (not_report : subevent ≠ EVT_LE_ADVERTISING_REPORT) (fits : params.length ≤ 254)
  | other (event : UInt8) (params : List UInt8) (not_meta : event ≠ LE_META_EVENT)
      (fits : params.length ≤ 255)

namespace HciEvent

def event : HciEvent → UInt8
  | le_advertising_report .. => LE_META_EVENT
  | le_meta .. => LE_META_EVENT
  | other event .. => event

def params : HciEvent → List UInt8
  | le_advertising_report reports .. =>
    EVT_LE_ADVERTISING_REPORT :: UInt8.ofNat reports.length :: reports.flatMap Report.bytes
  | le_meta subevent params .. => subevent :: params
  | other _ params .. => params

/-- The packet type `HCI_EVENT_PKT`, the event, the length and the parameters. -/
def bytes (e : HciEvent) : List UInt8 :=
  0x04 :: e.event :: UInt8.ofNat e.params.length :: e.params

/-- What `recv(255)` returns. -/
def recv (e : HciEvent) : Packet := e.bytes.take 255

def reports : HciEvent → List Report
  | le_advertising_report reports .. => reports
  | _ => []

end HciEvent

/-- The iBeacon advertisements among the reports of some events. -/
def iBeacons (events : List HciEvent) : List Beacon :=
  (events.flatMap HciEvent.reports).filterMap Report.iBeacon

/-! ## Accounting -/

/-- The string does to the sums what the report should: it counts the report's own
advertisement, if there is one. -/
def Decoded (r : Report) (beacon : Text) : Prop :=
  ∀ s, hear s beacon = some (s.listen r.iBeacon.toList)

/-- A round with these calls of `parse_events`: each report has its own string, and the
counts and the sums are those of the iBeacon advertisements of each beacon. -/
structure Accounted (calls : List (List HciEvent)) : Prop where
  decoded : ∀ e ∈ calls.flatten,
    ∃ strings, parse_packet e.recv = some strings ∧ List.Forall₂ Decoded e.reports strings
  totals : ∃ s, sampling (calls.map fun events => events.map HciEvent.recv) = some s ∧
    ∀ m, s.num m = (own m (iBeacons calls.flatten)).length ∧
      s.sum m = ((own m (iBeacons calls.flatten)).map Beacon.rssi).sum

/-- The part of an advertisement that the sums depend on. -/
def accepted (bea : Option Beacon) : Option Beacon := bea.filter fun bea => bea.Accepted

/-- The event raises nothing, and the end of its packet says of each of its reports what
the report itself says: which of the two beacons it is of, if any, and the values. -/
def HciEvent.Readable (e : HciEvent) : Prop :=
  match e with
  | .le_advertising_report reports .. =>
    ∀ r ∈ reports, accepted r.iBeacon = accepted (some (tail e.recv))
  | .le_meta subevent .. => subevent ≠ EVT_LE_CONN_COMPLETE
  | .other .. => True

/-! ## What the sums depend on -/

theorem hear_of_not_accepted {bea : Beacon} (h : ¬ bea.Accepted) (s : Sample) :
    s.hear bea = s := by
  unfold Beacon.Accepted at h
  rw [not_or] at h
  unfold Sample.hear
  rw [if_neg h.1, if_neg h.2]

theorem of_accepted {bea : Option Beacon} {b : Beacon} (h : accepted bea = some b) :
    b.Accepted := by
  unfold accepted at h
  rw [Option.filter_eq_some_iff, decide_eq_true_eq] at h
  exact h.2

theorem listen_accepted (bea : Option Beacon) (s : Sample) :
    s.listen (accepted bea).toList = s.listen bea.toList := by
  rcases bea with _ | bea
  · rfl
  · unfold accepted
    rw [Option.filter_some]
    by_cases h : bea.Accepted
    · rw [if_pos (decide_eq_true h)]
    · rw [if_neg (by simpa using h)]
      exact (hear_of_not_accepted h s).symm

theorem hear_init_inj {bea bea' : Beacon} (h : bea.Accepted) (h' : bea'.Accepted)
    (heq : Sample.init.hear bea = Sample.init.hear bea') : bea = bea' := by
  obtain ⟨major, tx, rssi⟩ := bea
  obtain ⟨major', tx', rssi'⟩ := bea'
  rcases h with rfl | rfl <;> rcases h' with rfl | rfl <;>
    simp_all [Sample.hear, Sample.init]

theorem hear_init_ne {bea : Beacon} (h : bea.Accepted) : Sample.init.hear bea ≠ Sample.init := by
  obtain ⟨major, tx, rssi⟩ := bea
  rcases h with rfl | rfl <;> simp [Sample.hear, Sample.init]

/-- Two advertisements do the same to all sums exactly if neither is counted or they are
equal. -/
theorem listen_eq_iff (bea bea' : Option Beacon) :
    (∀ s : Sample, s.listen bea.toList = s.listen bea'.toList) ↔ accepted bea = accepted bea' := by
  constructor
  · intro h
    have hinit := h Sample.init
    rw [← listen_accepted bea, ← listen_accepted bea'] at hinit
    rcases hb : accepted bea with _ | b
    · rcases hb' : accepted bea' with _ | b'
      · rfl
      · rw [hb, hb'] at hinit
        exact absurd hinit.symm (hear_init_ne (of_accepted hb'))
    · rcases hb' : accepted bea' with _ | b'
      · rw [hb, hb'] at hinit
        exact absurd hinit (hear_init_ne (of_accepted hb))
      · rw [hb, hb'] at hinit
        rw [hear_init_inj (of_accepted hb) (of_accepted hb') hinit]
  · intro h s
    rw [← listen_accepted bea, h, listen_accepted]

/-! ## The strings of one event -/

theorem length_flatMap_bytes (reports : List Report) :
    10 * reports.length ≤ (reports.flatMap Report.bytes).length := by
  induction reports with
  | nil => simp
  | cons r reports ih =>
    rw [List.flatMap_cons, List.length_append, List.length_cons, r.length_bytes]
    omega

/-- What stands before the end of a packet does not matter for it. -/
theorem tail_append_left (pre : Packet) {pkt : Packet} (h : 6 ≤ pkt.length) :
    tail (pre ++ pkt) = tail pkt := by
  obtain ⟨pre', hi, lo, minor_hi, minor_lo, power, rssi, rfl⟩ := exists_end h
  rw [← List.append_assoc, tail_append, tail_append]

theorem mapM_const {α β : Type*} (l : List α) (b : β) :
    l.mapM (fun _ => some b) = some (List.replicate l.length b) := by
  induction l with
  | nil => rfl
  | cons a l ih =>
    rw [List.mapM_cons, ih]
    rfl

/-- **All strings of an event are the same**: each is read at the end of the packet. -/
theorem parse_packet_reports (reports : List Report) (some_report : reports ≠ [])
    (fits : (reports.flatMap Report.bytes).length ≤ 253) :
    ∃ beacon,
      parse_packet (HciEvent.recv (.le_advertising_report reports some_report fits))
        = some (List.replicate reports.length beacon) ∧
      ∀ s, hear s beacon
        = some (s.hear (tail (HciEvent.recv (.le_advertising_report reports some_report fits)))) := by
  have hten := length_flatMap_bytes reports
  have hpos : 0 < reports.length := List.length_pos_of_ne_nil some_report
  -- at most 25 reports, so their number fits into its byte
  have hnum : (UInt8.ofNat reports.length).toNat = reports.length := by
    rw [UInt8.toNat_ofNat']
    omega
  have hrecv : HciEvent.recv (.le_advertising_report reports some_report fits)
      = [0x04, LE_META_EVENT, UInt8.ofNat (reports.flatMap Report.bytes).length.succ.succ,
          EVT_LE_ADVERTISING_REPORT]
        ++ (UInt8.ofNat reports.length :: (reports.flatMap Report.bytes).take 250) := rfl
  have hlen : 11 ≤ (UInt8.ofNat reports.length
      :: (reports.flatMap Report.bytes).take 250).length := by
    rw [List.length_cons, List.length_take]
    omega
  obtain ⟨beacon, hstring, hhear⟩ := hear_Adstring hlen
  refine ⟨beacon, ?_, ?_⟩
  · rw [hrecv]
    change ((List.range (UInt8.ofNat reports.length).toNat).mapM fun _ =>
      Adstring (UInt8.ofNat reports.length :: (reports.flatMap Report.bytes).take 250) 0) = _
    rw [hstring, mapM_const, List.length_range, hnum]
  · rw [hrecv, tail_append_left _ (by omega)]
    exact hhear

theorem forall₂_replicate_iff {α β : Type*} {R : α → β → Prop} (l : List α) (b : β) :
    List.Forall₂ R l (List.replicate l.length b) ↔ ∀ a ∈ l, R a b := by
  induction l with
  | nil => simp
  | cons a l ih => rw [List.length_cons, List.replicate_succ, List.forall₂_cons, ih,
      List.forall_mem_cons]

/-- **When the strings are the reports' own.** -/
theorem decoded_iff (e : HciEvent) :
    (∃ strings, parse_packet e.recv = some strings ∧ List.Forall₂ Decoded e.reports strings)
      ↔ e.Readable := by
  cases e with
  | le_advertising_report reports some_report fits =>
    obtain ⟨beacon, hparse, hhear⟩ := parse_packet_reports reports some_report fits
    have hdecoded : ∀ r : Report, Decoded r beacon ↔ accepted r.iBeacon
        = accepted (some (tail (HciEvent.recv (.le_advertising_report reports some_report fits)))) := by
      intro r
      rw [← listen_eq_iff]
      unfold Decoded
      refine forall_congr' fun s => ?_
      rw [hhear, Option.some_inj]
      exact eq_comm
    rw [hparse]
    constructor
    · rintro ⟨strings, hstrings, hall⟩ r hr
      rw [← Option.some.inj hstrings] at hall
      exact (hdecoded r).mp ((forall₂_replicate_iff _ _).mp hall r hr)
    · intro hreadable
      refine ⟨_, rfl, (forall₂_replicate_iff _ _).mpr fun r hr => ?_⟩
      exact (hdecoded r).mpr (hreadable r hr)
  | le_meta subevent params not_report fits =>
    have hparse : parse_packet (HciEvent.recv (.le_meta subevent params not_report fits))
        = if subevent = EVT_LE_CONN_COMPLETE then none else some [] := by
      change (if subevent = EVT_LE_CONN_COMPLETE then none
        else if subevent = EVT_LE_ADVERTISING_REPORT then _ else some []) = _
      rw [if_neg not_report]
    rw [hparse]
    change _ ↔ subevent ≠ EVT_LE_CONN_COMPLETE
    by_cases h : subevent = EVT_LE_CONN_COMPLETE
    · rw [if_pos h]
      simp [h]
    · rw [if_neg h]
      exact iff_of_true ⟨[], rfl, List.Forall₂.nil⟩ h
  | other event params not_meta fits =>
    have hparse : parse_packet (HciEvent.recv (.other event params not_meta fits)) = some [] :=
      if_neg not_meta
    rw [hparse]
    exact iff_of_true ⟨[], rfl, List.Forall₂.nil⟩ trivial

/-! ## The sums of a round -/

/-- What the finder hears in strings that are the reports' own. -/
theorem listen_decoded {reports : List Report} {strings : List Text}
    (h : List.Forall₂ Decoded reports strings) (s : Sample) :
    listen s strings = some (s.listen (reports.filterMap Report.iBeacon)) := by
  induction h generalizing s with
  | nil => rfl
  | @cons r beacon reports strings hr _ ih =>
    have hcons : s.listen ((r :: reports).filterMap Report.iBeacon)
        = (s.listen r.iBeacon.toList).listen (reports.filterMap Report.iBeacon) := by
      rcases hb : r.iBeacon with _ | bea
      · rw [List.filterMap_cons_none hb]
        rfl
      · rw [List.filterMap_cons_some hb]
        rfl
    unfold listen at ih ⊢
    rw [List.foldlM_cons, hr s, hcons]
    exact ih _

theorem parse_events_cons {pkt : Packet} {pkts : List Packet} {strings returnList : List Text}
    (h : parse_packet pkt = some strings) (hrest : parse_events pkts = some returnList) :
    parse_events (pkt :: pkts) = some (strings ++ returnList) := by
  unfold parse_events at hrest ⊢
  obtain ⟨lists, hlists, hflatten⟩ := Option.bind_eq_some_iff.mp hrest
  rw [List.mapM_cons, h, hlists, ← Option.some.inj hflatten]
  rfl

theorem parse_events_decoded {events : List HciEvent} (h : ∀ e ∈ events, e.Readable) :
    ∃ returnList, parse_events (events.map HciEvent.recv) = some returnList ∧
      List.Forall₂ Decoded (events.flatMap HciEvent.reports) returnList := by
  induction events with
  | nil => exact ⟨[], rfl, List.Forall₂.nil⟩
  | cons e events ih =>
    obtain ⟨strings, hparse, hstrings⟩ := (decoded_iff e).mpr (h e List.mem_cons_self)
    obtain ⟨returnList, hrest, hall⟩ := ih fun e' he' => h e' (List.mem_cons_of_mem _ he')
    exact ⟨strings ++ returnList, parse_events_cons hparse hrest, List.rel_append hstrings hall⟩

/-- A round of readable events hears the iBeacon advertisements of each call. -/
theorem sampling_eq_sampled {calls : List (List HciEvent)}
    (h : ∀ e ∈ calls.flatten, e.Readable) :
    sampling (calls.map fun events => events.map HciEvent.recv)
      = some (sampled (calls.map iBeacons)) := by
  unfold sampling sampled
  generalize Sample.init = s
  induction calls generalizing s with
  | nil => rfl
  | cons events calls ih =>
    rw [List.flatten_cons, List.forall_mem_append] at h
    obtain ⟨returnList, hparse, hall⟩ := parse_events_decoded h.1
    have hcall : (parse_events (events.map HciEvent.recv) >>= listen s)
        = some (s.listen (iBeacons events)) := by
      rw [hparse]
      exact listen_decoded hall s
    rw [List.map_cons, List.foldlM_cons, hcall]
    exact ih h.2 _

theorem flatten_map_iBeacons (calls : List (List HciEvent)) :
    (calls.map iBeacons).flatten = iBeacons calls.flatten := by
  induction calls with
  | nil => rfl
  | cons events calls ih =>
    unfold iBeacons at ih ⊢
    rw [List.map_cons, List.flatten_cons, ih, List.flatten_cons, List.flatMap_append,
      List.filterMap_append]

/-- **Sample accounting.** A round counts every iBeacon advertisement of each beacon once,
with its own values, and nothing else, exactly if all its events are readable. -/
theorem accounted_iff (calls : List (List HciEvent)) :
    Accounted calls ↔ ∀ e ∈ calls.flatten, e.Readable := by
  constructor
  · intro h e he
    exact (decoded_iff e).mp (h.decoded e he)
  · intro h
    refine ⟨fun e he => (decoded_iff e).mpr (h e he), _, sampling_eq_sampled h, fun m => ?_⟩
    rw [num_sampled, sum_sampled, flatten_map_iBeacons]
    exact ⟨rfl, rfl⟩

/-! ## One report in an event -/

/-- An event with one report is received whole. -/
theorem recv_single (r : Report) (some_report : [r] ≠ [])
    (fits : ([r].flatMap Report.bytes).length ≤ 253) :
    ∃ plen, HciEvent.recv (.le_advertising_report [r] some_report fits)
      = [0x04, LE_META_EVENT, plen, EVT_LE_ADVERTISING_REPORT, 1] ++ r.bytes := by
  refine ⟨UInt8.ofNat ([r].flatMap Report.bytes).length.succ.succ, ?_⟩
  change ([0x04, LE_META_EVENT, _, EVT_LE_ADVERTISING_REPORT, 1] ++ (r.bytes ++ [])).take 255 = _
  have hdata := r.data_length
  have hlen := r.length_bytes
  rw [List.append_nil]
  apply List.take_of_length_le
  rw [List.length_append]
  simp only [List.length_cons, List.length_nil]
  omega

/-- The end of an iBeacon frame is what it advertises. -/
theorem tail_bytes {r : Report} {bea : Beacon} (h : r.iBeacon = some bea) : tail r.bytes = bea := by
  unfold Report.iBeacon at h
  split_ifs at h
  split at h
  · rename_i hi lo minor_hi minor_lo power hend
    have hdata : r.data = r.data.take 25 ++ [hi, lo, minor_hi, minor_lo, power] := by
      rw [← hend, List.take_append_drop]
    have hbytes : r.bytes
        = r.evt_type :: r.bdaddr_type :: (r.bdaddr ++ UInt8.ofNat r.data.length :: r.data.take 25)
          ++ [hi, lo, minor_hi, minor_lo, power, r.rssi] := by
      calc r.bytes = r.evt_type :: r.bdaddr_type :: (r.bdaddr ++ UInt8.ofNat r.data.length ::
              (r.data.take 25 ++ [hi, lo, minor_hi, minor_lo, power] ++ [r.rssi])) := by
            rw [← hdata]
            rfl
        _ = _ := by simp only [List.cons_append, List.append_assoc, List.nil_append]
    rw [hbytes, tail_append]
    exact Option.some.inj h
  · exact absurd h (by simp)

/-- An event with one report, an iBeacon frame, is readable. -/
theorem readable_iBeacon {r : Report} {bea : Beacon} (h : r.iBeacon = some bea)
    (some_report : [r] ≠ []) (fits : ([r].flatMap Report.bytes).length ≤ 253) :
    HciEvent.Readable (.le_advertising_report [r] some_report fits) := by
  intro r' hr'
  obtain ⟨plen, hrecv⟩ := recv_single r some_report fits
  have hlen := r.length_bytes
  rw [List.mem_singleton.mp hr', hrecv, tail_append_left _ (by omega), tail_bytes h, h]

/-! ## Two reports in one event -/

/-- Another device, with nothing in its advertisement. -/
def other_device : Report := ⟨0x00, 0x00, [1, 2, 3, 4, 5, 6], [], 0xb0, rfl, by decide⟩

/-- An iBeacon frame of `39`, TX value and RSSI -59. -/
def frame_39 : Report :=
  ⟨0x00, 0x00, [6, 5, 4, 3, 2, 1],
    [0x02, 0x01, 0x06, 0x1a, 0xff, 0x4c, 0x00, 0x02, 0x15] ++ List.replicate 16 0x11 ++
      [0x00, 0x27, 0x00, 0x01, 0xc5],
    0xc5, rfl, by decide⟩

/-- One call of `parse_events` that receives ten events with these two reports each. -/
def ten_of_two : List HciEvent :=
  List.replicate 10 (.le_advertising_report [other_device, frame_39] (by decide) (by decide))

/-- Ten advertisements of `39` are counted twenty times. -/
theorem reports_counted_twice :
    sampling [ten_of_two.map HciEvent.recv] = some ⟨-1180, 20, 0, 0, -59⟩ ∧
      own .m39 (iBeacons ten_of_two) = List.replicate 10 ⟨39, -59, -59⟩ ∧
      ¬ Accounted [ten_of_two] := by
  have hsampling : sampling [ten_of_two.map HciEvent.recv] = some ⟨-1180, 20, 0, 0, -59⟩ := by
    decide +kernel
  have hown : own .m39 (iBeacons ten_of_two) = List.replicate 10 ⟨39, -59, -59⟩ := by
    decide +kernel
  refine ⟨hsampling, hown, ?_⟩
  rintro ⟨-, s, hs, htotals⟩
  obtain rfl : ⟨-1180, 20, 0, 0, -59⟩ = s := Option.some.inj (hsampling.symm.trans hs)
  have hnum := (htotals .m39).1
  rw [List.flatten_singleton, hown, List.length_replicate] at hnum
  exact absurd hnum (by decide)

end Blescan

end SmartBike.Parking
