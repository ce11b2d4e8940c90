/-
A ride: the threads of `combined_mode.py`, the containers `left_light` and `right_light`,
and the pollers of `Navi`.

A message of a thread is on its way until the server has created its instance, and the
pollers are answered with the newest instance of their container. Read by one of its parts, a
run of the ride is a run of that part (`bike_runs`, `navi_runs`). As long as instances are
created in the order in which their messages were sent, the phone shows what the bicycle
signals in the order in which it does (`shown_in_order`), and a signal that the bicycle keeps
is shown after the next poll (`phone_shows`).
-/
import SmartBike.App.Shown
import SmartBike.Gateway.Publish
import SmartBike.Lib.Delivery
import SmartBike.Lights.TurnLights

set_option autoImplicit false

open Runs Delivery

namespace SmartBike.System

open App Lights
open Gateway (Text)

/-- A `con` as text. -/
def con_text : Con → Text
  | .off => ['0']
  | .on => ['1']
  | .warning => ['2']

/-- The container of a side. -/
def light_ctname : Side → Text
  | .left => "left_light".toList
  | .right => "right_light".toList

/-- The gateway takes every message of `combined_mode.py` as it is. -/
theorem deliverable_light (side : Side) (con : Con) :
    Gateway.Deliverable (light_ctname side, con_text con) := by
  cases side with
  | left => cases con <;> decide +kernel
  | right => cases con <;> decide +kernel

/-- The bicycle, for each side the messages whose instances are to be created and those
whose instances have been, and the phone. -/
structure Ride where
  bike : CombinedMode
  wire : Side → Net Con
  navi : Navi

inductive RideLabel where
  | bike (l : Lights.Label)
  -- the instance of the message at index `i` is created
  | create (side : Side) (i : ℕ)
  | onCreate
  -- a poller, as in `PollingEvent`
  | handle (side : Side) (i : ℕ)
  | read (side : Side) (i : ℕ)
  | exception (side : Side) (i : ℕ)
  | wake (side : Side) (i : ℕ)
  deriving DecidableEq, Repr

namespace Ride

def init (before : ℕ → Bool) : Ride := ⟨.init before, fun _ => .empty, .init⟩

/-- What a step of the bicycle sends on a side. -/
def sent (r : Ride) (l : Lights.Label) (side : Side) : List Con :=
  if l.side = side then Action.messages ((r.bike.thread l.side).step l.side l.input).2 else []

section Step

-- the body with which the server answers for an instance
variable (body : Con → Text)

/-- What the bicycle does in a step. -/
def bike_labels (_ : Ride) : RideLabel → List Lights.Label
  | .bike l => [l]
  | _ => []

/-- What the phone does. -/
def navi_events (r : Ride) : RideLabel → List NaviEvent
  | .bike _ => []
  | .create side i => ((r.wire side).pending[i]?).toList.map fun con => .poll side (.create (body con))
  | .onCreate => [.onCreate]
  | .handle side i => [.poll side (.handle i)]
  | .read side i => [.poll side (.read i)]
  | .exception side i => [.poll side (.exception i)]
  | .wake side i => [.poll side (.wake i)]

theorem navi_events_none {r : Ride} {side : Side} {i : ℕ} (h : (r.wire side).pending[i]? = none) :
    r.navi_events body (.create side i) = [] := by
  simp only [navi_events, h, Option.toList_none, List.map_nil]

theorem navi_events_some {r : Ride} {side : Side} {i : ℕ} {con : Con}
    (h : (r.wire side).pending[i]? = some con) :
    r.navi_events body (.create side i) = [.poll side (.create (body con))] := by
  simp only [navi_events, h, Option.toList_some, List.map_cons, List.map_nil]

def wire_step (r : Ride) : RideLabel → Side → Net Con
  | .bike l => fun side => run Net.step (r.wire side) ((r.sent l side).map .issue)
  | .create side i => Function.update r.wire side ((r.wire side).arrive i)
  | _ => r.wire

def step (r : Ride) (l : RideLabel) : Ride where
  bike := run CombinedMode.step r.bike (bike_labels r l)
  wire := r.wire_step l
  navi := run Navi.step r.navi (r.navi_events body l)

/-! ## The parts -/

/-- **The bicycle on a ride** gets nothing from the others. -/
def bike_runs : Refinement (step body) CombinedMode.step where
  abs := bike
  emit := bike_labels
  abs_step _ _ := rfl

/-- **The phone on a ride** gets nothing but the instances. -/
def navi_runs : Refinement (step body) Navi.step where
  abs := navi
  emit := navi_events body
  abs_step _ _ := rfl

/-- The steps of the bicycle in a run. -/
def bike_trace (before : ℕ → Bool) (labels : List RideLabel) : List Lights.Label :=
  (bike_runs body).trace (init before) labels

def navi_trace (before : ℕ → Bool) (labels : List RideLabel) : List NaviEvent :=
  (navi_runs body).trace (init before) labels

theorem bike_run (before : ℕ → Bool) (labels : List RideLabel) :
    (run (step body) (init before) labels).bike
      = run CombinedMode.step (.init before) (bike_trace body before labels) :=
  (bike_runs body).abs_run (init before) labels

theorem navi_run (before : ℕ → Bool) (labels : List RideLabel) :
    (run (step body) (init before) labels).navi
      = run Navi.step Navi.init (navi_trace body before labels) :=
  (navi_runs body).abs_run (init before) labels

/-! ## The containers -/

/-- The step lets no message of the side overtake an older one. -/
def Ordered (side : Side) (r : Ride) : RideLabel → Prop
  | .create side' i => side' = side → (r.wire side).InOrder (fun _ => ()) (.arrive i)
  | _ => True

/-- What is on the wire of a side is what its thread has sent, in order, and the phone's
server has the instances of what has arrived. -/
structure Carried (side : Side) (r : Ride) : Prop where
  sent : (r.wire side).all = r.bike.messages side
  created : (r.navi side).cins = (r.wire side).arrived.map body

/-- The instances change only when one is created. -/
theorem cins_poll (t : Polling) {e : PollingEvent} (he : ∀ b, e ≠ .create b) :
    (t.step e).cins = t.cins := by
  rcases t.step_cases e with heq | ⟨b, hb, -⟩ | ⟨i, b, -, -, -, heq⟩ |
    ⟨i, cin, strResp, -, -, heq⟩ | ⟨i, pc, -, -, -, heq⟩ | ⟨i, -, -, heq⟩
  · rw [heq]
  · exact absurd hb (he b)
  · rw [heq]
  · rw [heq]
    rcases t.retrieve_cases i cin strResp with ⟨-, heq⟩ | ⟨-, heq⟩ | ⟨con, -, heq⟩
    · rw [heq]
      rfl
    · rw [heq]
    · rw [heq]
      rfl
  · rw [heq]
    rfl
  · rw [heq]

theorem cins_navi (t : Navi) (side side' : Side) {e : PollingEvent} (he : ∀ b, e ≠ .create b) :
    (Navi.step t (.poll side' e) side).cins = (t side).cins := by
  by_cases hside : side = side'
  · subst hside
    change (Function.update t side ((t side).step e) side).cins = _
    rw [Function.update_self]
    exact cins_poll (t side) he
  · change (Function.update t side' ((t side').step e) side).cins = _
    rw [Function.update_of_ne hside]

theorem carried_step {side : Side} {r : Ride} (h : r.Carried body side) {l : RideLabel}
    (ho : r.Ordered side l) : (r.step body l).Carried body side := by
  cases l with
  | bike l =>
    have hmessages : (r.bike.step l).messages side = r.bike.messages side ++ r.sent l side := by
      unfold sent
      by_cases hside : l.side = side
      · subst hside
        rw [if_pos rfl]
        exact r.bike.messages_step_self l
      · rw [if_neg hside, List.append_nil]
        exact r.bike.messages_step_of_ne l (Ne.symm hside)
    obtain ⟨hpending, harrived⟩ := Net.run_map_issue (r.wire side) (r.sent l side)
    constructor
    · change (run Net.step (r.wire side) ((r.sent l side).map .issue)).all
        = (r.bike.step l).messages side
      rw [Net.all, hpending, harrived, ← List.append_assoc, hmessages, ← h.sent]
      rfl
    · change (r.navi side).cins
        = (run Net.step (r.wire side) ((r.sent l side).map .issue)).arrived.map body
      rw [harrived]
      exact h.created
  | create side' i =>
    by_cases hside : side = side'
    · subst hside
      have hall := Net.filter_step (fun _ : Con => ()) (ho rfl) ()
      simp only [decide_true, List.filter_true, Net.issued, List.filterMap_cons,
        List.filterMap_nil, List.filter_nil, List.append_nil] at hall
      refine ⟨?_, ?_⟩
      · change (Function.update r.wire side ((r.wire side).arrive i) side).all = r.bike.messages side
        rw [Function.update_self]
        exact hall.trans h.sent
      · change (run Navi.step r.navi (r.navi_events body (.create side i)) side).cins
          = (Function.update r.wire side ((r.wire side).arrive i) side).arrived.map body
        rw [Function.update_self]
        cases hi : (r.wire side).pending[i]? with
        | none =>
          rw [Net.arrive_of_none hi, navi_events_none body hi]
          exact h.created
        | some con =>
          rw [Net.arrive_of_some hi, List.map_append, ← h.created, navi_events_some body hi]
          change (Function.update r.navi side ((r.navi side).step (.create (body con))) side).cins = _
          rw [Function.update_self]
          rfl
    · refine ⟨?_, ?_⟩
      · change (Function.update r.wire side' ((r.wire side').arrive i) side).all = _
        rw [Function.update_of_ne hside]
        exact h.sent
      · change (run Navi.step r.navi (r.navi_events body (.create side' i)) side).cins
          = (Function.update r.wire side' ((r.wire side').arrive i) side).arrived.map body
        rw [Function.update_of_ne hside]
        cases hi : (r.wire side').pending[i]? with
        | none =>
          rw [navi_events_none body hi]
          exact h.created
        | some con =>
          rw [navi_events_some body hi]
          change (Function.update r.navi side' _ side).cins = _
          rw [Function.update_of_ne hside]
          exact h.created
  | onCreate => exact ⟨h.sent, h.created⟩
  | handle side' i =>
    exact ⟨h.sent, (cins_navi r.navi side side' (by simp)).trans h.created⟩
  | read side' i =>
    exact ⟨h.sent, (cins_navi r.navi side side' (by simp)).trans h.created⟩
  | exception side' i =>
    exact ⟨h.sent, (cins_navi r.navi side side' (by simp)).trans h.created⟩
  | wake side' i =>
    exact ⟨h.sent, (cins_navi r.navi side side' (by simp)).trans h.created⟩

theorem carried_run {before : ℕ → Bool} {side : Side} {labels : List RideLabel}
    (ho : Steps (step body) (Ordered side) (init before) labels) :
    (run (step body) (init before) labels).Carried body side := by
  have hstep : ∀ r l, Carried body side r → Ordered side r l → (step body r l).Carried body side :=
    fun r l h hl => carried_step body h hl
  exact ho.invariant hstep ⟨rfl, rfl⟩

/-! ## What the phone shows -/

theorem count_navi_events (r : Ride) (l : RideLabel) :
    (r.navi_events body l).count .onCreate = [l].count .onCreate := by
  cases l with
  | create side i =>
    cases hi : (r.wire side).pending[i]? with
    | none =>
      rw [navi_events_none body hi]
      rfl
    | some con =>
      rw [navi_events_some body hi]
      rfl
  | bike | onCreate | handle | read | exception | wake => rfl

/-- The phone's openings are those of the run. -/
theorem count_navi_trace (r : Ride) (labels : List RideLabel) :
    ((navi_runs body).trace r labels).count .onCreate = labels.count .onCreate := by
  induction labels generalizing r with
  | nil => rfl
  | cons l labels ih =>
    rw [Refinement.trace_cons, List.count_append, ih]
    change (r.navi_events body l).count .onCreate + _ = _
    rw [count_navi_events, ← List.count_append, List.singleton_append]

theorem inOrder_run {before : ℕ → Bool} {labels : List RideLabel}
    (hone : labels.count .onCreate ≤ 1) (side : Side) :
    ((run (step body) (init before) labels).navi side).InOrder := by
  rw [navi_run]
  refine Navi.inOrder_of_opened_once ?_ side
  rw [navi_trace, count_navi_trace]
  exact hone

theorem shows_run (before : ℕ → Bool) (labels : List RideLabel) (side : Side) :
    ((run (step body) (init before) labels).navi side).Shows := by
  rw [navi_run]
  exact Navi.shows_run _ side

theorem dated_run (before : ℕ → Bool) (labels : List RideLabel) (side : Side) :
    ((run (step body) (init before) labels).navi side).Dated := by
  rw [navi_run]
  exact Navi.dated_run _ side

/-- **Shown in order.** If instances are created in the order of their messages and the
activity is opened once, every value the phone has shown for a side is that of a message of
the bicycle, and it has shown them in the order in which they were sent. -/
theorem shown_in_order (hbody : ∀ con, Polling.light (body con) = some (con_text con))
    {before : ℕ → Bool} {labels : List RideLabel} {side : Side}
    (ho : Steps (step body) (Ordered side) (init before) labels)
    (hone : labels.count .onCreate ≤ 1) :
    (((run (step body) (init before) labels).navi side).written.map Light.cin).Pairwise (· ≤ ·) ∧
      ∀ w ∈ ((run (step body) (init before) labels).navi side).written,
        ((run (step body) (init before) labels).bike.messages side)[w.cin]?.map con_text
          = some w.con := by
  have hcarried := carried_run body ho
  have hshows := shows_run body before labels side
  refine ⟨inOrder_run body hone side, fun w hw => ?_⟩
  have hwritten := hshows.written w hw
  rw [hcarried.created, List.getElem?_map] at hwritten
  obtain ⟨b, hb, hlight⟩ := Option.bind_eq_some_iff.mp hwritten
  obtain ⟨con, hcon, rfl⟩ := Option.map_eq_some_iff.mp hb
  obtain ⟨hlt, -⟩ := List.getElem?_eq_some_iff.mp hcon
  rw [← hcarried.sent, Net.all, List.getElem?_append_left hlt, hcon, Option.map_some, ← hlight,
    hbody]

/-! ## A signal that is kept -/

/-- The step sends nothing on the side. -/
def Silent (side : Side) (r : Ride) : RideLabel → Prop
  | .bike l => r.sent l side = []
  | _ => True

/-- All messages of the side have arrived. -/
def Idle (side : Side) (r : Ride) : Prop := (r.wire side).pending = []

/-- **What the rest does in silence**: no instance of the side is created. -/
theorem silent_step {side : Side} {r : Ride} (h : r.Idle side) {l : RideLabel}
    (hl : r.Silent side l) :
    (r.step body l).wire side = r.wire side ∧
      ((r.step body l).navi side = r.navi side ∨
        (r.step body l).navi side = (r.navi side).start ∨
        ∃ e, (∀ b, e ≠ .create b) ∧ (∀ i, e = .read i → l = .read side i) ∧
          (∀ i, e = .exception i → l = .exception side i) ∧
          (r.step body l).navi side = (r.navi side).step e) := by
  -- an event of a poller, of this side or the other
  have hpoll : ∀ (side' : Side) (e : PollingEvent), (∀ b, e ≠ .create b) →
      (∀ i, e = .read i → l = .read side' i) → (∀ i, e = .exception i → l = .exception side' i) →
      (r.step body l).navi = Navi.step r.navi (.poll side' e) →
      (r.step body l).navi side = r.navi side ∨
        (r.step body l).navi side = (r.navi side).start ∨
        ∃ e, (∀ b, e ≠ .create b) ∧ (∀ i, e = .read i → l = .read side i) ∧
          (∀ i, e = .exception i → l = .exception side i) ∧
          (r.step body l).navi side = (r.navi side).step e := by
    intro side' e hcreate hread hexception hstep
    rw [hstep]
    by_cases hside : side = side'
    · subst hside
      exact Or.inr (Or.inr ⟨e, hcreate, hread, hexception, Function.update_self ..⟩)
    · exact Or.inl (Function.update_of_ne hside ..)
  cases l with
  | bike l =>
    refine ⟨?_, Or.inl rfl⟩
    change run Net.step (r.wire side) ((r.sent l side).map .issue) = r.wire side
    rw [hl]
    rfl
  | create side' i =>
    by_cases hside : side = side'
    · subst hside
      have hnone : (r.wire side).pending[i]? = none := by
        rw [h]
        rfl
      refine ⟨?_, Or.inl ?_⟩
      · change Function.update r.wire side ((r.wire side).arrive i) side = _
        rw [Function.update_self]
        exact Net.arrive_of_none hnone
      · unfold step
        dsimp only
        rw [navi_events_none body hnone]
        rfl
    · refine ⟨Function.update_of_ne hside .., Or.inl ?_⟩
      unfold step
      dsimp only
      cases hi : (r.wire side').pending[i]? with
      | none =>
        rw [navi_events_none body hi]
        rfl
      | some con =>
        rw [navi_events_some body hi]
        exact Function.update_of_ne hside ..
  | onCreate => exact ⟨rfl, Or.inr (Or.inl rfl)⟩
  | handle side' i => exact ⟨rfl, hpoll side' (.handle i) (by simp) (by simp) (by simp) rfl⟩
  | read side' i =>
    exact ⟨rfl, hpoll side' (.read i) (by simp) (by simp) (by simp) rfl⟩
  | exception side' i =>
    exact ⟨rfl, hpoll side' (.exception i) (by simp) (by simp) (by simp) rfl⟩
  | wake side' i => exact ⟨rfl, hpoll side' (.wake i) (by simp) (by simp) (by simp) rfl⟩

theorem asked_start {t : Polling} {i : ℕ} (h : Polling.Asked i t) : Polling.Asked i t.start := by
  obtain ⟨cin, strResp, hi, hcin⟩ := h
  obtain ⟨hlt, -⟩ := List.getElem?_eq_some_iff.mp hi
  refine ⟨cin, strResp, ?_, hcin⟩
  change (t.pollers ++ [.request])[i]? = _
  rw [List.getElem?_append_left hlt]
  exact hi

/-- In silence a side sends nothing. -/
theorem messages_step {side : Side} {r : Ride} {l : RideLabel} (hl : r.Silent side l) :
    (r.step body l).bike.messages side = r.bike.messages side := by
  cases l with
  | bike l =>
    change (r.bike.step l).messages side = _
    have hsilent : r.sent l side = [] := hl
    unfold sent at hsilent
    by_cases hside : l.side = side
    · subst hside
      rw [if_pos rfl] at hsilent
      rw [r.bike.messages_step_self, hsilent, List.append_nil]
    · exact r.bike.messages_step_of_ne l (Ne.symm hside)
  | create | onCreate | handle | read | exception | wake => rfl

/-- All messages of the side have arrived, and the last one is `con`. -/
structure Settled (side : Side) (con : Con) (r : Ride) : Prop where
  carried : r.Carried body side
  shows : (r.navi side).Shows
  dated : (r.navi side).Dated
  idle : r.Idle side
  last : (r.bike.messages side).getLast? = some con

/-- The newest instance is that of the last message. -/
theorem Settled.newest {side : Side} {con : Con} {r : Ride} (h : r.Settled body side con) :
    (r.navi side).cins.getLast? = some (body con) := by
  have hsent := h.carried.sent
  unfold Net.all at hsent
  rw [h.idle, List.append_nil] at hsent
  rw [h.carried.created, List.getLast?_map, hsent, h.last, Option.map_some]

/-- Silence keeps it so. -/
theorem settled_step {side : Side} {con : Con} {r : Ride} (h : r.Settled body side con)
    {l : RideLabel} (hl : r.Silent side l) : (r.step body l).Settled body side con := by
  obtain ⟨hwire, hnavi⟩ := silent_step body h.idle hl
  have ho : r.Ordered side l := by
    cases l with
    | create side' i =>
      rintro rfl a ha
      rw [h.idle] at ha
      simp at ha
    | bike | onCreate | handle | read | exception | wake => trivial
  refine ⟨carried_step body h.carried ho, ?_, ?_, ?_, ?_⟩
  · rcases hnavi with hsame | hstart | ⟨e, -, -, -, hstep⟩
    · rw [hsame]
      exact h.shows
    · rw [hstart]
      exact h.shows.moved (Polling.fewer_start _)
    · rw [hstep]
      exact h.shows.step e
  · rcases hnavi with hsame | hstart | ⟨e, -, -, -, hstep⟩
    · rw [hsame]
      exact h.dated
    · rw [hstart]
      exact h.dated.moved (Polling.fewer_start _)
    · rw [hstep]
      exact h.dated.step e
  · unfold Idle
    rw [hwire]
    exact h.idle
  · rw [messages_step body hl]
    exact h.last

/-- The other steps leave the answer of poller `i` as it is. -/
theorem asked_run {side : Side} {con : Con} {i : ℕ} {r : Ride} {labels : List RideLabel}
    (h : r.Settled body side con) (hasked : Polling.Asked i (r.navi side))
    (hl : Steps (step body) (Silent side) r labels)
    (hmid : ∀ l ∈ labels, l ≠ .read side i ∧ l ≠ .exception side i) :
    (run (step body) r labels).Settled body side con ∧
      Polling.Asked i ((run (step body) r labels).navi side) := by
  induction labels generalizing r with
  | nil => exact ⟨h, hasked⟩
  | cons l labels ih =>
    obtain ⟨-, hnavi⟩ := silent_step body h.idle hl.1
    obtain ⟨hread, hexception⟩ := hmid l List.mem_cons_self
    refine ih (settled_step body h hl.1) ?_ hl.2 fun l' hl' => hmid l' (List.mem_cons_of_mem _ hl')
    rcases hnavi with hsame | hstart | ⟨e, hcreate, her, hee, hstep⟩
    · rw [hsame]
      exact hasked
    · rw [hstart]
      exact asked_start hasked
    · rw [hstep]
      exact Polling.asked_step hasked hcreate (fun he => hread (her i he))
        fun he => hexception (hee i he)

/-- A signal that has been written stays written. -/
theorem seen_run {side : Side} {con : Con} {r : Ride} {labels : List RideLabel}
    (h : r.Settled body side con) (hseen : (r.navi side).Seen)
    (hl : Steps (step body) (Silent side) r labels) :
    (run (step body) r labels).Settled body side con ∧
      ((run (step body) r labels).navi side).Seen := by
  induction labels generalizing r with
  | nil => exact ⟨h, hseen⟩
  | cons l labels ih =>
    obtain ⟨-, hnavi⟩ := silent_step body h.idle hl.1
    refine ih (settled_step body h hl.1) ?_ hl.2
    rcases hnavi with hsame | hstart | ⟨e, hcreate, -, -, hstep⟩
    · rw [hsame]
      exact hseen
    · rw [hstart]
      exact hseen
    · rw [hstep]
      exact Polling.seen_step hseen hcreate

/-- **A poll of a signal that is kept**, from the request to some time after the answer. -/
theorem seen_of_poll {side : Side} {con : Con} {i : ℕ} {r : Ride} {mid post : List RideLabel}
    (hbody : ∀ con, Polling.light (body con) = some (con_text con))
    (h : r.Settled body side con) (hasks : (r.navi side).pollers[i]? = some .request)
    (hl : Steps (step body) (Silent side) r (.handle side i :: (mid ++ .read side i :: post)))
    (hmid : ∀ l ∈ mid, l ≠ .read side i ∧ l ≠ .exception side i) :
    (run (step body) r (.handle side i :: (mid ++ .read side i :: post))).Settled body side con ∧
      ((run (step body) r (.handle side i :: (mid ++ .read side i :: post))).navi side).Seen := by
  obtain ⟨hhandle, hrest⟩ := hl
  obtain ⟨hsilentmid, hread, hsilentpost⟩ := (steps_append ..).mp hrest
  have hne : (r.navi side).cins ≠ [] := by
    intro hnil
    have hnewest := h.newest
    rw [hnil] at hnewest
    simp at hnewest
  have hasked : Polling.Asked i ((r.step body (.handle side i)).navi side) := by
    change Polling.Asked i (Function.update r.navi side ((r.navi side).step (.handle i)) side)
    rw [Function.update_self]
    exact Polling.asked_handle hasks hne
  obtain ⟨hsettled, hasked'⟩ :=
    asked_run body (settled_step body h hhandle) hasked hsilentmid hmid
  rw [run_cons, run_append, run_cons]
  generalize run (step body) (r.step body (.handle side i)) mid = r' at hsettled hasked' hread hsilentpost ⊢
  have hseen : ((r'.step body (.read side i)).navi side).Seen := by
    change (Function.update r'.navi side ((r'.navi side).step (.read i)) side).Seen
    rw [Function.update_self]
    have hnewest : (r'.navi side).cins.getLast?.bind Polling.light = some (con_text con) := by
      rw [hsettled.newest, Option.bind_some, hbody]
    exact Polling.seen_read hsettled.shows hasked' hnewest
  exact seen_run body (settled_step body hsettled hread) hseen hsilentpost

/-- Between two cycles, the last message is the last classification. -/
theorem messages_between {before : ℕ → Bool} {labels : List Lights.Label} {side : Side}
    (hpc : ((run CombinedMode.step (.init before) labels).thread side).pc = .switch ∨
      ((run CombinedMode.step (.init before) labels).thread side).pc = .dead) :
    ((run CombinedMode.step (.init before) labels).messages side).getLast?
      = (CombinedMode.classified side (.init before) labels).getLast? := by
  have hall : CombinedMode.published side (.init before) labels
      = CombinedMode.classified side (.init before) labels := by
    refine if_pos ?_
    rcases hpc with hpc | hpc
    · rw [hpc]
      rfl
    · rw [hpc]
      rfl
  rw [CombinedMode.messages_eq, hall]
  exact OnChange.getLast?_destutter _

/-- **A signal is shown.** Between two cycles of a side's thread its last classification is
`con`, all its messages have arrived, and poller `i` is about to ask. From then on the side
sends nothing. Once the poller has read its answer, whatever else has happened, the phone
shows `con`, and goes on to show it. -/
theorem phone_shows (hbody : ∀ con, Polling.light (body con) = some (con_text con))
    {before : ℕ → Bool} {side : Side} {i : ℕ} {pre mid post : List RideLabel} {con : Con}
    (ho : Steps (step body) (Ordered side) (init before) pre)
    (hone : (pre ++ .handle side i :: (mid ++ .read side i :: post)).count .onCreate ≤ 1)
    (hpc : ((run (step body) (init before) pre).bike.thread side).pc = .switch ∨
      ((run (step body) (init before) pre).bike.thread side).pc = .dead)
    (hcon : (CombinedMode.classified side (.init before)
      (bike_trace body before pre)).getLast? = some con)
    (hidle : (run (step body) (init before) pre).Idle side)
    (hasks : ((run (step body) (init before) pre).navi side).pollers[i]? = some .request)
    (hsilent : Steps (step body) (Silent side) (run (step body) (init before) pre)
      (.handle side i :: (mid ++ .read side i :: post)))
    (hmid : ∀ l ∈ mid, l ≠ .read side i ∧ l ≠ .exception side i) :
    ((run (step body) (init before) (pre ++ .handle side i :: (mid ++ .read side i :: post))).navi
      side).check = con_text con := by
  have hlast : ((run (step body) (init before) pre).bike.messages side).getLast? = some con := by
    rw [bike_run] at hpc ⊢
    rw [messages_between hpc]
    exact hcon
  have hsettled : (run (step body) (init before) pre).Settled body side con :=
    ⟨carried_run body ho, shows_run body before pre side, dated_run body before pre side, hidle,
      hlast⟩
  obtain ⟨hsettled', hseen⟩ := seen_of_poll body hbody hsettled hasks hsilent hmid
  rw [← run_append] at hsettled' hseen
  have hcheck := Polling.check_newest hsettled'.shows hsettled'.dated (inOrder_run body hone side)
    hseen
  rw [hsettled'.newest, Option.bind_some, hbody] at hcheck
  exact (Option.some.inj hcheck).symm

end Step

section Runs

private def answer (con : Con) : Text := Maps.body (con_text con)

private theorem light_answer (con : Con) : Polling.light (answer con) = some (con_text con) := by
  cases con <;> decide +kernel

/-- The activity is opened, the left thread has had a cycle without the switch, and its
message has arrived. -/
private def cycle : List RideLabel :=
  [.onCreate, .bike ⟨.left, ⟨false, ⟨[], []⟩⟩⟩, .bike ⟨.left, ⟨false, ⟨[], []⟩⟩⟩,
    .bike ⟨.left, ⟨false, ⟨[], []⟩⟩⟩, .bike ⟨.left, ⟨false, ⟨[], []⟩⟩⟩, .create .left 0]

private theorem ordered_cycle (before : ℕ → Bool) :
    Steps (step answer) (Ordered .left) (init before) cycle := by
  refine ⟨trivial, trivial, trivial, trivial, trivial, fun _ a _ b hb => ?_, trivial⟩
  simp at hb

theorem shown_in_order_cycle :
    (((run (step answer) (init fun _ => false) (cycle ++ [.handle .left 0, .read .left 0])).navi
      .left).written.map Light.cin).Pairwise (· ≤ ·) ∧
      ∀ w ∈ ((run (step answer) (init fun _ => false)
        (cycle ++ [.handle .left 0, .read .left 0])).navi .left).written,
        ((run (step answer) (init fun _ => false)
          (cycle ++ [.handle .left 0, .read .left 0])).bike.messages .left)[w.cin]?.map con_text
            = some w.con := by
  refine shown_in_order answer light_answer ?_ (by decide)
  exact (steps_append ..).mpr ⟨ordered_cycle _, trivial, trivial, trivial⟩

/-- The right thread goes on while the poller waits. -/
theorem phone_shows_cycle :
    ((run (step answer) (init fun _ => false) (cycle ++ .handle .left 0 ::
      ([.bike ⟨.right, ⟨true, ⟨[], []⟩⟩⟩] ++ .read .left 0 :: [.wake .left 0]))).navi .left).check
      = con_text .off := by
  refine phone_shows answer light_answer (ordered_cycle _) ?_ (Or.inl ?_) ?_ ?_ ?_ ?_ ?_
  · decide
  · decide +kernel
  · decide +kernel
  · exact List.isEmpty_iff.mp (by decide +kernel)
  · decide +kernel
  · exact ⟨trivial, rfl, trivial, trivial, trivial⟩
  · decide

end Runs

end Ride

end SmartBike.System
