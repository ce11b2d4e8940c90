/-
What becomes of the messages a script writes: the requests the gateway makes, and the
content instances these create.

The gateway takes the stream of messages apart at closing braces. As long as no event
that completes a message carries the beginning of another one, this is the library's
framing, so that the cuts do not matter and there is one request for each message, in
order (`run_requests`). The requests are independent of each other: each container
gets its instances once each, in the order in which the requests arrive. What the
other scripts write goes into requests of their own.
-/
import SmartBike.Gateway.Tas

set_option autoImplicit false

open Runs Delivery Js

namespace SmartBike.Gateway

/-- The stream of the messages a script writes; a message is a container and a value. -/
def stream (msgs : List (Text × Text)) : Text := msgs.flatMap fun m => message m.1 m.2

/-- A value for a configured container that goes through the gateway unchanged: plain
text, and not the greeting that is echoed. -/
def Deliverable (m : Text × Text) : Prop :=
  m.1 ∈ usectname ∧ (∀ c ∈ m.2, Plain c) ∧ m.2 ≠ "hello".toList

instance (m : Text × Text) : Decidable (Deliverable m) :=
  have : Decidable (∀ c ∈ m.2, Plain c) := List.decidableBAll _ _
  inferInstanceAs (Decidable (_ ∧ _ ∧ _))

/-- What a label brings from `socket`. -/
def Label.chunk (socket : ℕ) : Label → Option Text
  | .data socket' d => if socket' = socket then some d else none
  | _ => none

/-- The `data` events of `socket`. -/
def chunks (socket : ℕ) (labels : List Label) : List Text := labels.filterMap (Label.chunk socket)

theorem chunks_cons_some {socket : ℕ} {l : Label} {d : Text} (h : l.chunk socket = some d)
    (labels : List Label) : chunks socket (l :: labels) = d :: chunks socket labels :=
  List.filterMap_cons_some h

theorem chunks_cons_none {socket : ℕ} {l : Label} (h : l.chunk socket = none)
    (labels : List Label) : chunks socket (l :: labels) = chunks socket labels :=
  List.filterMap_cons_none h

theorem plain_usectname {ctname : Text} (h : ctname ∈ usectname) : ∀ c ∈ ctname, Plain c := by
  have hall : usectname.all (fun s => s.all fun c => decide (Plain c)) = true := by decide
  exact plain_of_all (List.all_eq_true.mp hall ctname h)

theorem stream_eq_frames (msgs : List (Text × Text)) :
    stream msgs = Framing.frames '}' (msgs.map fun m => unclosed m.1 m.2) := by
  unfold stream Framing.frames
  rw [List.flatMap_map]
  apply List.flatMap_congr
  intro m _
  exact message_eq m.1 m.2

theorem free_unclosed {msgs : List (Text × Text)} (h : ∀ m ∈ msgs, Deliverable m) :
    Framing.Free '}' (msgs.map fun m => unclosed m.1 m.2) := by
  intro body hbody
  obtain ⟨m, hm, rfl⟩ := List.mem_map.mp hbody
  obtain ⟨hctname, hcon, -⟩ := h m hm
  exact not_mem_unclosed (plain_usectname hctname) hcon

namespace Tas

/-- The script at `socket` stays connected, nothing takes the gateway out of the state
`crtci`, and what others write does not end it. -/
def Quiet (socket : ℕ) (g : Tas) : Label → Prop
  | .connect socket' => socket' ≠ socket
  | .data socket' d => socket' = socket ∨ (g.step (.data socket' d)).crashed = false
  | .respond _ _ status _ => status ≠ "5000".toList
  | .interval sh_state => sh_state = .crtci
  | .close _ => True
  | .arrive _ => True
  | .notify _ _ => True

instance (socket : ℕ) (g : Tas) (l : Label) : Decidable (g.Quiet socket l) := by
  cases l <;> unfold Quiet <;> infer_instance

/-- A content that is a string. -/
def textual (con : Text) : Value Number := some (.string (String.ofList con))

/-- The request a message becomes. -/
def request (socket : ℕ) (m : Text × Text) : Request := ⟨m.1, textual m.2, socket⟩

/-- The gateway is alive, takes requests, and has `buffer` of the script's next line. -/
structure Serving (socket : ℕ) (buffer : Text) (g : Tas) : Prop where
  alive : g.crashed = false
  crtci : g.sh_state = .crtci
  buffer : g.buffers socket = buffer

/-- The lines of some messages are that many requests. -/
theorem lines_requests {socket : ℕ} {buffer : Text} {g : Tas} (h : g.Serving socket buffer)
    {msgs : List (Text × Text)} (hm : ∀ m ∈ msgs, Deliverable m) :
    (g.lines socket (msgs.map fun m => unclosed m.1 m.2)).Serving socket buffer ∧
      (g.lines socket (msgs.map fun m => unclosed m.1 m.2)).requests
        = run Net.step g.requests ((msgs.map (request socket)).map .issue) := by
  induction msgs generalizing g with
  | nil => exact ⟨h, rfl⟩
  | cons m msgs ih =>
    obtain ⟨hctname, hcon, hhello⟩ := hm m List.mem_cons_self
    have hline := line_message h.alive socket (plain_usectname hctname) hcon
    rw [message_eq] at hline
    simp only [if_neg hhello, if_pos (And.intro h.crtci hctname)] at hline
    rw [List.map_cons, lines_cons, hline, List.map_cons, List.map_cons, run_cons]
    exact ih ⟨h.alive, h.crtci, h.buffer⟩ fun m' hin => hm m' (List.mem_cons_of_mem _ hin)

/-- The container and the connection of a request. -/
def key (r : Request) : Text × ℕ := (r.ctname, r.socket)

/-- The requests arrive in the order of issue, as far as they come from one connection
and are for one container. -/
def InIssueOrder (g : Tas) : Label → Prop
  | .arrive i => g.requests.InOrder key (.arrive i)
  | _ => True

/-- What a stretch of a run does to the requests, in which the script's messages `msgs`
are received: the script's requests are those of the messages, in order, the others come
from connections that wrote, and arrivals in order are moves in order. -/
structure Issues (socket : ℕ) (g g' : Tas) (labels : List Label) (msgs : List (Text × Text)) :
    Prop where
  moves : ∃ moves, g'.requests = run Net.step g.requests moves ∧
    (Net.issued moves).filter (fun r => r.socket = socket) = msgs.map (request socket) ∧
    (∀ r ∈ Net.issued moves, ∃ d, Label.data r.socket d ∈ labels) ∧
    (Steps step InIssueOrder g labels → Steps Net.step (Net.InOrder key) g.requests moves)

theorem Issues.nil (socket : ℕ) (g : Tas) : Issues socket g g [] [] :=
  ⟨[], rfl, rfl, by simp [Net.issued], fun _ => trivial⟩

/-- A step and what follows it. -/
theorem Issues.cons {socket : ℕ} {g g' : Tas} {l : Label} {labels : List Label}
    {msgs msgs' : List (Text × Text)} (h : Issues socket g (g.step l) [l] msgs)
    (h' : Issues socket (g.step l) g' labels msgs') :
    Issues socket g g' (l :: labels) (msgs ++ msgs') := by
  obtain ⟨moves, hmoves, hown, hfrom, horder⟩ := h.moves
  obtain ⟨moves', hmoves', hown', hfrom', horder'⟩ := h'.moves
  refine ⟨moves ++ moves', ?_, ?_, ?_, ?_⟩
  · rw [hmoves', hmoves, run_append]
  · rw [Net.issued_append, List.filter_append, hown, hown', List.map_append]
  · intro r hr
    rw [Net.issued_append] at hr
    rcases List.mem_append.mp hr with hr | hr
    · obtain ⟨d, hd⟩ := hfrom r hr
      exact ⟨d, List.mem_cons.mpr (Or.inl (List.mem_singleton.mp hd))⟩
    · obtain ⟨d, hd⟩ := hfrom' r hr
      exact ⟨d, List.mem_cons_of_mem _ hd⟩
  · rintro ⟨hi, hsteps⟩
    rw [steps_append, ← hmoves]
    exact ⟨horder ⟨hi, trivial⟩, horder' hsteps⟩

/-- The requests of a chunk are in order whatever they are. -/
theorem steps_map_issue (n : Net Request) (rs : List Request) :
    Steps Net.step (Net.InOrder key) n (rs.map .issue) := by
  apply Steps.of_labels
  intro mv hmv n'
  obtain ⟨r, -, rfl⟩ := List.mem_map.mp hmv
  trivial

/-- **What a chunk of the script does.** -/
theorem step_own {socket : ℕ} {buffer : Text} {g : Tas} (h : g.Serving socket buffer)
    (hbuffer : '}' ∉ buffer) {d : Text} (hd : '}' ∈ d → d.getLast? = some '}')
    {msgs : List (Text × Text)} (hm : ∀ m ∈ msgs, Deliverable m)
    (hreceive : msgs.map (fun m => unclosed m.1 m.2) = (Framing.receive '}' buffer d).1) :
    (g.step (.data socket d)).Serving socket (Framing.receive '}' buffer d).2 ∧
      Issues socket g (g.step (.data socket d)) [.data socket d] msgs := by
  have hb := h.buffer
  have hstep := data_eq_receive socket (hb ▸ hbuffer) hd
  rw [hb, ← hreceive] at hstep
  have hserving : Serving socket (Framing.receive '}' buffer d).2
      { g with
        buffers := Function.update g.buffers socket (Framing.receive '}' buffer d).2 } :=
    ⟨h.alive, h.crtci, Function.update_self ..⟩
  obtain ⟨hserving', hrequests⟩ := lines_requests hserving hm
  rw [step_alive h.alive, handle, hstep]
  refine ⟨hserving', (msgs.map (request socket)).map .issue, hrequests, ?_, ?_, ?_⟩
  · rw [Net.issued_map_issue, List.filter_eq_self]
    intro r hr
    obtain ⟨m, -, rfl⟩ := List.mem_map.mp hr
    exact decide_eq_true rfl
  · intro r hr
    rw [Net.issued_map_issue] at hr
    obtain ⟨m, -, rfl⟩ := List.mem_map.mp hr
    exact ⟨d, List.mem_singleton.mpr rfl⟩
  · exact fun _ => steps_map_issue _ _

/-- What a line does to the state and the buffers, and the requests it makes. -/
theorem line_frame (g : Tas) (socket : ℕ) (l : Text) :
    (g.line socket l).sh_state = g.sh_state ∧ (g.line socket l).buffers = g.buffers ∧
      ∃ rs : List Request, (∀ r ∈ rs, r.socket = socket) ∧
        (g.line socket l).requests = run Net.step g.requests (rs.map .issue) := by
  unfold line
  split_ifs
  · exact ⟨rfl, rfl, [], by simp, rfl⟩
  · split
    · exact ⟨rfl, rfl, [], by simp, rfl⟩
    · rename_i ctname content con _
      dsimp only
      split_ifs
      · exact ⟨rfl, rfl, [], by simp, rfl⟩
      · exact ⟨rfl, rfl, [⟨ctname, content, socket⟩], by simp, rfl⟩
      · exact ⟨rfl, rfl, [], by simp, rfl⟩

theorem lines_frame (g : Tas) (socket : ℕ) (ls : List Text) :
    (g.lines socket ls).sh_state = g.sh_state ∧ (g.lines socket ls).buffers = g.buffers ∧
      ∃ rs : List Request, (∀ r ∈ rs, r.socket = socket) ∧
        (g.lines socket ls).requests = run Net.step g.requests (rs.map .issue) := by
  induction ls generalizing g with
  | nil => exact ⟨rfl, rfl, [], by simp, rfl⟩
  | cons l ls ih =>
    obtain ⟨hstate, hbuffers, rs, hrs, hrequests⟩ := g.line_frame socket (l ++ ['}'])
    obtain ⟨hstate', hbuffers', rs', hrs', hrequests'⟩ := ih (g.line socket (l ++ ['}']))
    rw [lines_cons]
    refine ⟨hstate'.trans hstate, hbuffers'.trans hbuffers, rs ++ rs', ?_, ?_⟩
    · intro r hr
      rcases List.mem_append.mp hr with hr | hr
      · exact hrs r hr
      · exact hrs' r hr
    · rw [hrequests', hrequests, List.map_append, run_append]

/-- What a chunk does to the state and the buffers of others, and the requests it makes. -/
theorem data_frame (g : Tas) (socket : ℕ) (d : Text) :
    (g.data socket d).sh_state = g.sh_state ∧
      (∀ s ≠ socket, (g.data socket d).buffers s = g.buffers s) ∧
      ∃ rs : List Request, (∀ r ∈ rs, r.socket = socket) ∧
        (g.data socket d).requests = run Net.step g.requests (rs.map .issue) := by
  unfold data
  dsimp only
  split_ifs
  · obtain ⟨hstate, hbuffers, hrequests⟩ :=
      lines_frame { g with buffers := Function.update g.buffers socket [] } socket
        ((g.buffers socket ++ d).splitOn '}').dropLast
    refine ⟨hstate, ?_, hrequests⟩
    intro s hs
    rw [hbuffers]
    exact Function.update_of_ne hs ..
  · exact ⟨rfl, fun s hs => Function.update_of_ne hs .., [], by simp, rfl⟩

/-- **What any other step does**: the script's buffer stays, and the requests that are
new are those of another connection. -/
theorem step_other {socket : ℕ} {buffer : Text} {g : Tas} (h : g.Serving socket buffer)
    {l : Label} (hq : g.Quiet socket l) (hchunk : l.chunk socket = none) :
    (g.step l).Serving socket buffer ∧ Issues socket g (g.step l) [l] [] := by
  -- a step that leaves the requests alone
  have hsame : ∀ g' : Tas, g'.requests = g.requests → Issues socket g g' [l] [] :=
    fun g' heq => ⟨[], heq, rfl, by simp [Net.issued], fun _ => trivial⟩
  rw [step_alive h.alive]
  cases l with
  | connect s =>
    refine ⟨⟨h.alive, h.crtci, ?_⟩, hsame _ rfl⟩
    change Function.update g.buffers s [] socket = buffer
    rw [Function.update_of_ne (Ne.symm hq), h.buffer]
  | data s d =>
    have hs : s ≠ socket := by
      rintro rfl
      simp [Label.chunk] at hchunk
    have halive := hq.resolve_left hs
    rw [step_alive h.alive] at halive
    obtain ⟨hstate, hbuffers, rs, hrs, hrequests⟩ := g.data_frame s d
    refine ⟨⟨halive, hstate.trans h.crtci, (hbuffers socket (Ne.symm hs)).trans h.buffer⟩,
      rs.map .issue, hrequests, ?_, ?_, fun _ => steps_map_issue _ _⟩
    · rw [Net.issued_map_issue, List.map_nil, List.filter_eq_nil_iff]
      intro r hr
      rw [decide_eq_true_eq, hrs r hr]
      exact hs
    · intro r hr
      rw [Net.issued_map_issue] at hr
      rw [hrs r hr]
      exact ⟨d, List.mem_singleton.mpr rfl⟩
  | close s => exact ⟨h, hsame _ rfl⟩
  | arrive i =>
    exact ⟨⟨h.alive, h.crtci, h.buffer⟩, [.arrive i], rfl, rfl, by simp [Net.issued],
      fun hsteps => ⟨hsteps.1, trivial⟩⟩
  | respond s ctname status res_body =>
    refine ⟨⟨h.alive, ?_, h.buffer⟩, hsame _ rfl⟩
    change (if status = "5000".toList then ShState.crtae else g.sh_state) = _
    rw [if_neg hq, h.crtci]
  | notify ctname con =>
    obtain ⟨written, heq⟩ := g.send_tas_frame ctname con
    rw [handle, heq]
    exact ⟨⟨h.alive, h.crtci, h.buffer⟩, hsame _ rfl⟩
  | interval sh_state => exact ⟨⟨h.alive, hq, h.buffer⟩, hsame _ rfl⟩

theorem chunk_eq_some {socket : ℕ} {l : Label} {d : Text} (h : l.chunk socket = some d) :
    l = .data socket d := by
  cases l <;> simp only [Label.chunk, reduceCtorEq] at h
  split_ifs at h with hs
  rw [hs, Option.some.inj h]

/-- **What a whole run does to the requests.** -/
theorem run_requests {socket : ℕ} {labels : List Label} {g : Tas}
    (hq : Steps step (Quiet socket) g labels)
    (hwhole : ∀ d ∈ chunks socket labels, '}' ∈ d → d.getLast? = some '}') {buffer : Text}
    (h : g.Serving socket buffer) (hbuffer : '}' ∉ buffer) {msgs : List (Text × Text)}
    {last : Text} (hm : ∀ m ∈ msgs, Deliverable m)
    (hreceive : Framing.receiveAll '}' buffer (chunks socket labels)
      = (msgs.map fun m => unclosed m.1 m.2, last)) :
    (run step g labels).crashed = false ∧ Issues socket g (run step g labels) labels msgs := by
  induction labels generalizing g buffer msgs with
  | nil =>
    have hnil : msgs = [] := List.map_eq_nil_iff.mp (congrArg Prod.fst hreceive).symm
    rw [hnil]
    exact ⟨h.alive, .nil socket g⟩
  | cons l labels ih =>
    rw [run_cons]
    rcases hchunk : l.chunk socket with _ | d
    · rw [chunks_cons_none hchunk] at hreceive hwhole
      obtain ⟨hserving, hissues⟩ := step_other h hq.1 hchunk
      obtain ⟨halive, hrest⟩ := ih hq.2 hwhole hserving hbuffer hm hreceive
      exact ⟨halive, hissues.cons hrest⟩
    · obtain rfl := chunk_eq_some hchunk
      rw [chunks_cons_some hchunk] at hreceive hwhole
      -- the chunk completes the first of the messages
      have h1 := congrArg Prod.fst hreceive
      have h2 := congrArg Prod.snd hreceive
      simp only [Framing.receiveAll] at h1 h2
      obtain ⟨msgs₁, msgs₂, rfl, hfirst, hlast⟩ := List.map_eq_append_iff.mp h1.symm
      obtain ⟨hserving, hissues⟩ := step_own h hbuffer (hwhole d List.mem_cons_self)
        (fun m hin => hm m (List.mem_append_left _ hin)) hfirst
      obtain ⟨halive, hrest⟩ := ih hq.2
        (fun d' hin => hwhole d' (List.mem_cons_of_mem _ hin)) hserving
        (Framing.receive_spec buffer d).2.1
        (fun m hin => hm m (List.mem_append_right _ hin)) (Prod.ext hlast.symm h2)
      exact ⟨halive, hissues.cons hrest⟩

/-- The content instances in a container, oldest first. -/
def instances (g : Tas) (ctname : Text) : List (Value Number) :=
  (g.requests.arrived.filter fun r => r.ctname = ctname).map Request.content

/-- Those of them that a connection has created. -/
def created (g : Tas) (socket : ℕ) (ctname : Text) : List (Value Number) :=
  (g.requests.arrived.filter fun r => key r = (ctname, socket)).map Request.content

/-- The values written for a container, oldest first. -/
def values (msgs : List (Text × Text)) (ctname : Text) : List (Value Number) :=
  (msgs.filter fun m => m.1 = ctname).map fun m => textual m.2

theorem values_eq (socket : ℕ) (msgs : List (Text × Text)) (ctname : Text) :
    values msgs ctname = ((msgs.map (request socket)).filter
      fun r => key r = (ctname, socket)).map Request.content := by
  have hkey : msgs.filter (fun m => m.1 = ctname)
      = msgs.filter ((fun r => decide (key r = (ctname, socket))) ∘ request socket) := by
    apply List.filter_congr
    intro m _
    apply decide_eq_decide.mpr
    simp [key, request]
  rw [values, hkey, List.filter_map, List.map_map]
  rfl

/-- The requests of a connection for a container are among its requests. -/
theorem filter_key (rs : List Request) (socket : ℕ) (ctname : Text) :
    rs.filter (fun r => key r = (ctname, socket))
      = (rs.filter fun r => r.socket = socket).filter fun r => key r = (ctname, socket) := by
  rw [List.filter_filter]
  apply List.filter_congr
  intro r _
  by_cases hr : key r = (ctname, socket)
  · have hs : r.socket = socket := congrArg Prod.snd hr
    simp [hr, hs]
  · simp [hr]

/-- Where nobody else writes, all instances are the connection's. -/
theorem instances_eq_created {g : Tas} {socket : ℕ}
    (h : ∀ r ∈ g.requests.arrived, r.socket = socket) (ctname : Text) :
    g.instances ctname = g.created socket ctname := by
  unfold instances created
  congr 1
  apply List.filter_congr
  intro r hr
  simp [key, h r hr]

section Runs

private def safe : Text × Text := ("parking_state".toList, "safe".toList)

private def stolen : Text × Text := ("parking_state".toList, "stolen".toList)

/-- The script at socket 0 is the only one that writes, and the instances of each
container are its messages, in order. -/
def AsWritten (msgs : List (Text × Text)) (labels : List Label) : Prop :=
  (∀ m ∈ msgs, m.1 ∈ usectname ∧ '{' ∉ m.2 ∧ '}' ∉ m.2) → Steps step (Quiet 0) init labels →
    (chunks 0 labels).flatten = stream msgs → (run step init labels).requests.pending = [] →
    ∀ ctname, (run step init labels).instances ctname = values msgs ctname

end Runs

end Tas

end SmartBike.Gateway
