/-
The process of `thyme.js` as a whole: the set-up of `Setup.lean` and the server for the
scripts of `Tas.lean`, which share `sh_state` and the process.

As long as the process lives, a run of it is a run of either part (`setup_step`,
`tas_step`). The scripts' server is opened when the set-up is complete, and a gateway
that leaves `crtci` does not come back; so what a script writes is passed on up to a
moment, and nothing of it afterwards (`passed_on`).
-/
import SmartBike.Gateway.Publish
import SmartBike.Gateway.Setup

set_option autoImplicit false

open Runs Delivery

namespace SmartBike.Gateway

structure Thyme where
  setup : Setup
  tas : Tas

inductive ThymeEvent where
  | interval (generated : Text)
  | callback (r : AdnRequest) (rsc : Option ℕ) (res_body : AeBody)
  | connect (socket : ℕ)
  | data (socket : ℕ) (data : Text)
  | close (socket : ℕ)
  | arrive (i : ℕ)
  | respond (socket : ℕ) (ctname status res_body : Text)
  | notify (ctname con : Text)
  deriving DecidableEq, Repr

/-- What line 364 reads of a status. -/
def status_num (status : Text) : Option ℕ := if status = "5000".toList then some 5000 else none

namespace Thyme

variable (c : Conf)

/-- The two parts in one process, with one `sh_state`. -/
def settle (setup : Setup) (tas : Tas) : Thyme where
  setup := { setup with crashed := setup.crashed || tas.crashed }
  tas := { tas with sh_state := setup.sh_state, crashed := setup.crashed || tas.crashed }

def init : Thyme := settle (.init c) .init

/-- What an event is to the set-up. -/
def setup_event : ThymeEvent → Option SetupEvent
  | .interval generated => some (.interval generated)
  | .callback r rsc res_body => some (.callback r rsc res_body)
  | .respond _ _ status _ => some (.respond (status_num status))
  | _ => none

/-- What it is to the scripts' server. Before that is open, nobody connects and nobody
writes. -/
def label (t : Thyme) : ThymeEvent → Option Label
  | .connect socket => if t.setup.listening then some (.connect socket) else none
  | .data socket data => if t.setup.listening then some (.data socket data) else none
  | .close socket => some (.close socket)
  | .arrive i => some (.arrive i)
  | .respond socket ctname status res_body => some (.respond socket ctname status res_body)
  | .notify ctname con => some (.notify ctname con)
  | .interval _ => none
  | .callback _ _ _ => none

def step (t : Thyme) (e : ThymeEvent) : Thyme :=
  settle ((setup_event e).elim t.setup (t.setup.step c)) ((t.label e).elim t.tas t.tas.step)

/-! ## The parts -/

/-- The parts agree, and before the scripts' server is open it has not been used. -/
structure Joint (t : Thyme) : Prop where
  sh_state : t.tas.sh_state = t.setup.sh_state
  crashed : t.tas.crashed = t.setup.crashed
  setup : t.setup.Inv

theorem joint_settle {setup : Setup} (hsetup : setup.Inv) (tas : Tas) :
    (settle setup tas).Joint := by
  refine ⟨rfl, rfl, ?_⟩
  have hserves : (settle setup tas).setup.Serves → setup.Serves := by
    rintro ⟨hstate, hcrashed⟩
    exact ⟨hstate, (Bool.or_eq_false_iff.mp hcrashed).1⟩
  exact ⟨fun hs => hsetup.listening (hserves hs), fun hs => hsetup.counted (hserves hs)⟩

theorem joint_init : (init c).Joint :=
  joint_settle (.of_not_serves (Setup.not_serves_of_ne (by simp [Setup.init]))) _

theorem joint_step {t : Thyme} (h : t.Joint) (e : ThymeEvent) : (t.step c e).Joint := by
  apply joint_settle
  cases setup_event e with
  | none => exact h.setup
  | some e' => exact Setup.inv_step c t.setup e' h.setup

/-- **The set-up in the process**, as long as the process lives. -/
theorem setup_step (t : Thyme) (e : ThymeEvent) (halive : (t.step c e).setup.crashed = false) :
    (t.step c e).setup = (setup_event e).elim t.setup (t.setup.step c) := by
  unfold step settle at halive ⊢
  obtain ⟨hsetup, htas⟩ := Bool.or_eq_false_iff.mp halive
  dsimp only
  rw [htas, Bool.or_false]

/-- **The scripts' server in the process**: it gets its labels, and the state the set-up is
left in. -/
theorem tas_step (t : Thyme) (e : ThymeEvent)
    (halive : (t.step c e).setup.crashed = false) :
    (t.step c e).tas = run Tas.step t.tas
      ((t.label e).toList ++ [.interval (t.step c e).setup.sh_state]) := by
  have hboth := halive
  unfold step settle at halive
  obtain ⟨hsetup, htas⟩ := Bool.or_eq_false_iff.mp halive
  have hsame : (t.label e).elim t.tas t.tas.step = run Tas.step t.tas (t.label e).toList := by
    cases t.label e with
    | none => rfl
    | some l => rfl
  rw [hsame] at htas
  rw [run_append, run_cons, run_nil, Tas.step_alive htas]
  unfold step settle
  dsimp only
  rw [hsame, hsetup]
  simp only [Tas.handle, Bool.false_or]

/-- What is left of a gateway that is lost. -/
theorem lost_step {t : Thyme} (h : t.setup.Lost) (e : ThymeEvent) : (t.step c e).setup.Lost := by
  have hlost : ((setup_event e).elim t.setup (t.setup.step c)).Lost := by
    cases setup_event e with
    | none => exact h
    | some e' => exact Setup.lost_step c h e'
  rcases hlost with hcrashed | ⟨hlistening, hs⟩
  · left
    unfold step settle
    dsimp only
    rw [hcrashed, Bool.true_or]
  · refine Or.inr ⟨hlistening, fun hs' => hs ⟨hs'.1, ?_⟩⟩
    exact (Bool.or_eq_false_iff.mp hs'.2).1

theorem lost_run {t : Thyme} (h : t.setup.Lost) (es : List ThymeEvent) :
    (run (step c) t es).setup.Lost := by
  have hstep : ∀ t e, Setup.Lost (setup t) → (step c t e).setup.Lost := fun t e h => lost_step c h e
  exact invariant hstep h es

theorem alive_of_not_lost {t : Thyme} (ht : t.Joint) (h : ¬ t.setup.Lost) :
    t.tas.crashed = false := by
  rw [ht.crashed]
  by_contra hcrashed
  exact h (Or.inl (by simpa using hcrashed))

/-! ## What is passed on -/

/-- What an event brings from `socket`. -/
def chunk (socket : ℕ) : ThymeEvent → Option Text
  | .data socket' d => if socket' = socket then some d else none
  | _ => none

def chunks (socket : ℕ) (es : List ThymeEvent) : List Text := es.filterMap (chunk socket)

/-- The script at `socket` writes on a connection the gateway has accepted, does not
connect anew in the middle of a message, and no chunk that completes a message carries the
beginning of another one. -/
def Orderly (socket : ℕ) (t : Thyme) : ThymeEvent → Prop
  | .connect s => s = socket → t.tas.buffers socket = []
  | .data s d => s = socket → t.setup.listening = true ∧ ('}' ∈ d → d.getLast? = some '}')
  | _ => True

instance (socket : ℕ) (t : Thyme) : DecidablePred (t.Orderly socket)
  | .connect s => inferInstanceAs (Decidable (s = socket → t.tas.buffers socket = []))
  | .data s d => inferInstanceAs
      (Decidable (s = socket → t.setup.listening = true ∧ ('}' ∈ d → d.getLast? = some '}')))
  | .interval _ | .callback _ _ _ | .close _ | .arrive _ | .respond _ _ _ _ | .notify _ _ =>
    isTrue trivial

/-- The requests made so far, arrived or not, and in what order those of `socket` were. -/
def Issued (socket : ℕ) (n : Net Request) (rs : List Request) : Prop :=
  ∃ moves, n = run Net.step .empty moves ∧
    (Net.issued moves).filter (fun r => r.socket = socket) = rs

theorem Issued.moves {socket : ℕ} {n : Net Request} {rs : List Request} (h : Issued socket n rs)
    (moves : List (Move Request)) :
    Issued socket (run Net.step n moves)
      (rs ++ (Net.issued moves).filter fun r => r.socket = socket) := by
  obtain ⟨before, rfl, hrs⟩ := h
  refine ⟨before ++ moves, (run_append _ before moves).symm, ?_⟩
  rw [Net.issued_append, List.filter_append, hrs]

/-- Requests of another connection. -/
theorem Issued.others {socket s : ℕ} {n : Net Request} {rs rs' : List Request}
    (h : Issued socket n rs) (hs : s ≠ socket) (hrs' : ∀ r ∈ rs', r.socket = s) :
    Issued socket (run Net.step n (rs'.map .issue)) rs := by
  have hmoves := h.moves (rs'.map .issue)
  have hnone : rs'.filter (fun r => r.socket = socket) = [] := by
    rw [List.filter_eq_nil_iff]
    intro r hr
    rw [decide_eq_true_eq, hrs' r hr]
    exact hs
  rwa [Net.issued_map_issue, hnone, List.append_nil] at hmoves

theorem Issued.arrive {socket : ℕ} {n : Net Request} {rs : List Request} (h : Issued socket n rs)
    (i : ℕ) : Issued socket (n.arrive i) rs := by
  have hmoves := h.moves [.arrive i]
  rwa [Net.issued, List.filterMap_cons_none rfl, List.filterMap_nil, List.filter_nil,
    List.append_nil] at hmoves

/-- A gateway that is not lost, what it has of the script's next message, and the requests
it has made for the script. -/
structure Passing (socket : ℕ) (t : Thyme) (buffer : Text) (rs : List Request) : Prop where
  joint : t.Joint
  not_lost : ¬ t.setup.Lost
  buffers : t.tas.buffers socket = buffer
  unclosed : '}' ∉ buffer
  issued : Issued socket t.tas.requests rs

/-- **What a step that is not the script's does** to its requests, and to what is kept of
its next message. -/
theorem other_step {socket : ℕ} {t : Thyme} {buffer : Text} {rs : List Request}
    (h : Passing socket t buffer rs) {e : ThymeEvent} (ho : t.Orderly socket e)
    (hchunk : chunk socket e = none) :
    (t.step c e).tas.buffers socket = buffer ∧ Issued socket (t.step c e).tas.requests rs := by
  have halive := alive_of_not_lost h.joint h.not_lost
  -- the process ends or not: `settle` leaves the buffers and the requests alone
  have hframe : ∀ g : Tas, (t.label e).elim t.tas t.tas.step = g →
      g.buffers socket = buffer → Issued socket g.requests rs →
      (t.step c e).tas.buffers socket = buffer ∧ Issued socket (t.step c e).tas.requests rs := by
    rintro g rfl hbuffer hissued
    exact ⟨hbuffer, hissued⟩
  cases e with
  | interval generated => exact hframe _ rfl h.buffers h.issued
  | callback r rsc res_body => exact hframe _ rfl h.buffers h.issued
  | connect s =>
    by_cases hl : t.setup.listening = true
    · refine hframe (t.tas.step (.connect s)) (by simp [label, hl]) ?_ ?_
      · rw [Tas.step_alive halive]
        by_cases hs : s = socket
        · have hempty := ho hs
          rw [h.buffers] at hempty
          rw [hempty, hs]
          exact Function.update_self ..
        · exact (Function.update_of_ne (Ne.symm hs) ..).trans h.buffers
      · rw [Tas.step_alive halive]
        exact h.issued
    · exact hframe t.tas (by simp [label, hl]) h.buffers h.issued
  | data s d =>
    have hs : s ≠ socket := by
      rintro rfl
      simp [chunk] at hchunk
    by_cases hl : t.setup.listening = true
    · obtain ⟨-, hbuffers, rs', hrs', hrequests⟩ := t.tas.data_frame s d
      refine hframe (t.tas.step (.data s d)) (by simp [label, hl]) ?_ ?_
      · rw [Tas.step_alive halive]
        exact (hbuffers socket (Ne.symm hs)).trans h.buffers
      · rw [Tas.step_alive halive]
        change Issued socket (t.tas.data s d).requests rs
        rw [hrequests]
        exact h.issued.others hs hrs'
    · exact hframe t.tas (by simp [label, hl]) h.buffers h.issued
  | close s =>
    refine hframe (t.tas.step (.close s)) rfl ?_ ?_
    · rw [Tas.step_alive halive]
      exact h.buffers
    · rw [Tas.step_alive halive]
      exact h.issued
  | arrive i =>
    refine hframe (t.tas.step (.arrive i)) rfl ?_ ?_
    · rw [Tas.step_alive halive]
      exact h.buffers
    · rw [Tas.step_alive halive]
      exact h.issued.arrive i
  | respond s ctname status res_body =>
    refine hframe (t.tas.step (.respond s ctname status res_body)) rfl ?_ ?_
    · rw [Tas.step_alive halive]
      exact h.buffers
    · rw [Tas.step_alive halive]
      exact h.issued
  | notify ctname con =>
    obtain ⟨written, heq⟩ := t.tas.send_tas_frame ctname con
    refine hframe (t.tas.step (.notify ctname con)) rfl ?_ ?_
    · rw [Tas.step_alive halive, Tas.handle, heq]
      exact h.buffers
    · rw [Tas.step_alive halive, Tas.handle, heq]
      exact h.issued

/-- **What a chunk of the script does**: its messages become requests, and the gateway is
not lost. -/
theorem own_step {socket : ℕ} {t : Thyme} {buffer d : Text} {rs : List Request}
    (h : Passing socket t buffer rs) (ho : t.Orderly socket (.data socket d))
    {msgs : List (Text × Text)} (hm : ∀ m ∈ msgs, Deliverable m)
    (hreceive : msgs.map (fun m => unclosed m.1 m.2) = (Framing.receive '}' buffer d).1) :
    Passing socket (t.step c (.data socket d)) (Framing.receive '}' buffer d).2
      (rs ++ msgs.map (Tas.request socket)) := by
  obtain ⟨hlistening, hd⟩ := ho rfl
  have hserves := Setup.serves_of_not_lost h.not_lost hlistening
  have hserving : t.tas.Serving socket buffer :=
    ⟨alive_of_not_lost h.joint h.not_lost, h.joint.sh_state.trans hserves.1, h.buffers⟩
  obtain ⟨hserving', moves, hmoves, hown, -, -⟩ :=
    Tas.step_own hserving h.unclosed hd hm hreceive
  have htas : (t.label (.data socket d)).elim t.tas t.tas.step = t.tas.step (.data socket d) := by
    simp [label, hlistening]
  have hsetup : (t.step c (.data socket d)).setup = t.setup := by
    have hcrashed : t.setup.crashed = (t.setup.crashed || (t.tas.step (.data socket d)).crashed) := by
      rw [hserving'.alive, Bool.or_false]
    unfold step settle
    rw [htas]
    dsimp only [setup_event, Option.elim_none]
    rw [← hcrashed]
  refine ⟨joint_step c h.joint _, ?_, ?_, (Framing.receive_spec buffer d).2.1, ?_⟩
  · rw [hsetup]
    exact h.not_lost
  · change ((t.label (.data socket d)).elim t.tas t.tas.step).buffers socket = _
    rw [htas]
    exact hserving'.buffer
  · change Issued socket ((t.label (.data socket d)).elim t.tas t.tas.step).requests _
    rw [htas, hmoves, ← hown]
    exact h.issued.moves moves

theorem Passing.of_other {socket : ℕ} {t : Thyme} {buffer : Text} {rs : List Request}
    (h : Passing socket t buffer rs) {e : ThymeEvent} (ho : t.Orderly socket e)
    (hchunk : chunk socket e = none) (hlost : ¬ (t.step c e).setup.Lost) :
    Passing socket (t.step c e) buffer rs := by
  obtain ⟨hbuffer, hissued⟩ := other_step c h ho hchunk
  exact ⟨joint_step c h.joint e, hlost, hbuffer, h.unclosed, hissued⟩

theorem chunk_eq_some {socket : ℕ} {e : ThymeEvent} {d : Text} (h : chunk socket e = some d) :
    e = .data socket d := by
  cases e with
  | data s d' =>
    simp only [chunk] at h
    split_ifs at h with hs
    rw [hs, Option.some.inj h]
  | interval | callback | connect | close | arrive | respond | notify => simp [chunk] at h

/-- **A run in which the gateway is not lost.** -/
theorem run_passing {socket : ℕ} {t : Thyme} {es : List ThymeEvent} {buffer last : Text}
    {rs : List Request} {msgs : List (Text × Text)} (h : Passing socket t buffer rs)
    (hlost : ¬ (run (step c) t es).setup.Lost)
    (ho : Steps (step c) (Orderly socket) t es) (hm : ∀ m ∈ msgs, Deliverable m)
    (hreceive : Framing.receiveAll '}' buffer (chunks socket es)
      = (msgs.map fun m => unclosed m.1 m.2, last)) :
    Passing socket (run (step c) t es) last (rs ++ msgs.map (Tas.request socket)) := by
  induction es generalizing t buffer rs msgs with
  | nil =>
    have hnil : msgs = [] := List.map_eq_nil_iff.mp (congrArg Prod.fst hreceive).symm
    have hlast : buffer = last := congrArg Prod.snd hreceive
    rw [hnil, List.map_nil, List.append_nil, ← hlast]
    exact h
  | cons e es ih =>
    have hstep : ¬ (t.step c e).setup.Lost := fun hl => hlost (lost_run c hl es)
    cases hchunk : chunk socket e with
    | none =>
      rw [chunks, List.filterMap_cons_none hchunk] at hreceive
      exact ih (h.of_other c ho.1 hchunk hstep) hlost ho.2 hm hreceive
    | some d =>
      obtain rfl := chunk_eq_some hchunk
      rw [chunks, List.filterMap_cons_some hchunk] at hreceive
      -- the chunk completes the first of the messages
      have hbodies := congrArg Prod.fst hreceive
      have hrest := congrArg Prod.snd hreceive
      simp only [Framing.receiveAll] at hbodies hrest
      obtain ⟨msgs₁, msgs₂, rfl, hfirst, hlater⟩ := List.map_eq_append_iff.mp hbodies.symm
      have hown := own_step c h ho.1 (fun m hin => hm m (List.mem_append_left _ hin)) hfirst
      rw [List.map_append, ← List.append_assoc]
      exact ih hown hlost ho.2 (fun m hin => hm m (List.mem_append_right _ hin))
        (Prod.ext hlater.symm hrest)

/-- Without `crtci` a line makes no request. -/
theorem line_away {g : Tas} (h : g.sh_state ≠ .crtci) (socket : ℕ) (l : Text) :
    (g.line socket l).requests = g.requests := by
  unfold Tas.line
  split_ifs
  · rfl
  · split
    · rfl
    · dsimp only
      split_ifs with _ hcrtci
      · rfl
      · exact absurd hcrtci.1 h
      · rfl

theorem lines_away {g : Tas} (h : g.sh_state ≠ .crtci) (socket : ℕ) (ls : List Text) :
    (g.lines socket ls).requests = g.requests := by
  induction ls generalizing g with
  | nil => rfl
  | cons l ls ih =>
    have hline := (g.line_frame socket (l ++ ['}'])).1
    rw [Tas.lines_cons, ih (by rw [hline]; exact h), line_away h]

/-- **A gateway that is lost** makes no requests. -/
theorem lost_requests {socket : ℕ} {t : Thyme} (ht : t.Joint) (hlost : t.setup.Lost)
    {rs : List Request} (h : Issued socket t.tas.requests rs) (e : ThymeEvent) :
    Issued socket (t.step c e).tas.requests rs := by
  change Issued socket ((t.label e).elim t.tas t.tas.step).requests rs
  cases hl : t.label e with
  | none => exact h
  | some l =>
    change Issued socket (t.tas.step l).requests rs
    by_cases hcrashed : t.tas.crashed = true
    · cases l with
      | arrive i =>
        simp only [Tas.step, hcrashed]
        exact h.arrive i
      | connect | data | close | respond | notify | interval =>
        simp only [Tas.step, hcrashed]
        exact h
    · rw [Bool.not_eq_true] at hcrashed
      have haway : t.tas.sh_state ≠ .crtci := by
        rw [ht.sh_state]
        exact fun hstate => hlost.not_serves ⟨hstate, ht.crashed ▸ hcrashed⟩
      rw [Tas.step_alive hcrashed]
      cases l with
      | data s d =>
        have hdata : (t.tas.data s d).requests = t.tas.requests := by
          unfold Tas.data
          dsimp only
          split_ifs
          · exact lines_away (g := { t.tas with buffers := Function.update t.tas.buffers s [] })
              haway s _
          · rfl
        rw [Tas.handle, hdata]
        exact h
      | arrive i => exact h.arrive i
      | notify ctname con =>
        obtain ⟨written, heq⟩ := t.tas.send_tas_frame ctname con
        rw [Tas.handle, heq]
        exact h
      | connect | close | respond | interval => exact h

theorem lost_run_requests {socket : ℕ} {t : Thyme} (ht : t.Joint) (hlost : t.setup.Lost)
    {rs : List Request} (h : Issued socket t.tas.requests rs) (es : List ThymeEvent) :
    Issued socket (run (step c) t es).tas.requests rs := by
  induction es generalizing t with
  | nil => exact h
  | cons e es ih => exact ih (joint_step c ht e) (lost_step c hlost e) (lost_requests c ht hlost h e)

theorem passing_init (hsupported : c.Supported) (socket : ℕ) :
    Passing socket (init c) [] [] := by
  have halive : (init c).setup.crashed = false := by
    simpa [init, settle, Setup.init, Tas.init] using hsupported
  refine ⟨joint_init c, ?_, rfl, List.not_mem_nil, [], rfl, rfl⟩
  rintro (hcrashed | ⟨hlistening, -⟩)
  · rw [hcrashed] at halive
    exact absurd halive.symm Bool.false_ne_true
  · exact absurd hlistening Bool.false_ne_true

section Runs

/-- The set-up of `conf.json`, and a script that connects. -/
def connected : List ThymeEvent :=
  [.interval [], .callback conf_json.crtae (some 2001) (.ae "S".toList), .interval []] ++
    conf_json.usectname.map (fun ct => .callback (conf_json.crtct ct) (some 2001) .other) ++
    [.interval [], .callback (.delsub []) (some 4004) .other, .interval [],
      .callback (.crtsub [] [] none) (some 2001) .other, .connect 0]

end Runs

end Thyme

end SmartBike.Gateway
