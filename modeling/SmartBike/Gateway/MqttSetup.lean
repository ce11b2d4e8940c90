/-
The set-up of the gateway over MQTT.

Seen from `sh_state`, the counters, the scripts' server and the end of the process, the phases of
`mqtt_app.js` are those of `app.js`: every run of the one is a run of the other (`abs_step`),
where a client that is connected again is to the gateway what the status 5000 is. So the set-up is
completed once here too (`set_up_once`), and a gateway that loses its broker for a moment is set up
again only to end when it opens the scripts' server a second time.
-/
import Mathlib.Data.List.TakeWhile
import SmartBike.Gateway.MqttApp

set_option autoImplicit false

open Runs

namespace SmartBike.Gateway

namespace MqttApp

variable (c : Conf)

/-! ## As a run of the other set-up -/

/-- A subscription without its address. -/
def unaddress (s : Subscription) : Subscription := { s with nu := none }

/-- What the set-up of `app.js` is about. -/
def abs (m : MqttApp) : Setup where
  sh_state := m.sh_state.getD .crtae
  request_count := m.request_count
  return_count := m.return_count
  useaeid := []
  usesubname := m.usesubname.map unaddress
  noti_topic := []
  mqtt_clients := []
  listening := m.listening
  crashed := m.crashed

/-- A configuration of which nobody is to be notified. -/
def setup_conf : Conf := { c with usesubname := [] }

/-- An event after which the process has ended. -/
def ending : SetupEvent := .callback (.crtae [] [] []) (some 2001) .other

def ae_body (pc : Pc) : AeBody := if pc.aei = none then .other else .ae []

/-- The status, where `app.js` does not know 5106 for `rtvae`. -/
def adn_rsc (r : AdnRequest) (rsc : Option ℕ) : Option ℕ :=
  match r with
  | .rtvae _ => if rsc = some 5106 then some 2000 else rsc
  | _ => rsc

/-- What a callback is to the set-up of `app.js`. -/
def callback_events (m : MqttApp) (r : MqttRequest) (path : Option Text) (rsc : Option ℕ)
    (pc : Pc) : List SetupEvent :=
  match r with
  | .adn r => [.callback r (adn_rsc r rsc) (ae_body pc)]
  | .crtci _ _ _ =>
    match path with
    | none => [ending]
    | some path =>
      (if rsc = some 5000 then [.respond rsc] else []) ++
        (if m.socket_arr (container path) = none then [ending] else [])

/-- What an event is to it. -/
def setup_events (m : MqttApp) (e : MqttAppEvent) : List SetupEvent :=
  if m.crashed then []
  else
    match e with
    | .connect => [.respond (some 5000)]
    | .interval _ =>
      if m.sh_state = some .crtsub ∧ ∃ s ∈ m.usesubname, Unaddressed s then [ending]
      else [.interval []]
    | .line _ _ _ _ _ => []
    | .response rqi rsc pc =>
      if m.adn.Waits rqi then
        match m.adn.callback_q rqi with
        | none => [ending]
        | some r => m.callback_events r (m.adn.resp_mqtt_path_arr rqi) rsc pc
      else []

theorem step_abs {m : MqttApp} (hm : m.crashed = false) (e : SetupEvent) :
    (abs m).step (setup_conf c) e = match e with
      | .interval generated => Setup.interval (setup_conf c) (abs m) generated
      | .callback r rsc res_body => Setup.callback (setup_conf c) (abs m) r rsc res_body
      | .respond rsc => (abs m).respond rsc :=
  Setup.step_alive (setup_conf c) hm e

theorem step_ending {m : MqttApp} (hm : m.crashed = false) :
    (abs m).step (setup_conf c) ending = abs { m with crashed := true } := by
  rw [step_abs c hm]
  rfl

/-! ### The timer -/

theorem unaddress_autoset (m : MqttApp) (s : Subscription) :
    unaddress (autoset c m s) = unaddress s := by
  unfold autoset
  split
  · split_ifs
    · rfl
    · rfl
  · rfl

theorem subname_autoset (m : MqttApp) (s : Subscription) :
    (autoset c m s).subname = s.subname := by
  have h := congrArg Subscription.subname (unaddress_autoset c m s)
  exact h

/-- If all subscriptions have addresses the loop comes to all of them. -/
theorem reached_eq {subs : List Subscription} (h : ¬ ∃ s ∈ subs, Unaddressed s) :
    reached subs = subs := by
  apply List.takeWhile_eq_self_iff.mpr
  intro s hs
  exact decide_eq_true fun hu => h ⟨s, hs, hu⟩

theorem unaddress_reached (m : MqttApp) (subs : List Subscription) :
    ((reached subs).map (autoset c m) ++ subs.drop (reached subs).length).map unaddress
      = subs.map unaddress := by
  have hauto : unaddress ∘ autoset c m = unaddress := funext (unaddress_autoset c m)
  have hsplit : reached subs ++ subs.drop (reached subs).length = subs :=
    List.prefix_iff_eq_append.mp (List.takeWhile_prefix _)
  rw [List.map_append, List.map_map, hauto, ← List.map_append, hsplit]

theorem abs_listen (m : MqttApp) : abs m.listen = Setup.connect (setup_conf c) (abs m) := by
  have hready : Setup.ready_for_notification (setup_conf c) (abs m) = abs m := rfl
  have hopen : (m.enter .crtci).listening = m.listening := rfl
  unfold listen Setup.connect
  dsimp only
  rw [hready, hopen]
  by_cases hlistening : m.listening = true
  · rw [if_pos hlistening]
    exact (if_pos hlistening).symm
  · rw [if_neg hlistening]
    exact (if_neg hlistening).symm

theorem length_tick (m : MqttApp) (generated : ℕ → Text) :
    (tick c m generated).length = (requests c m).length := List.length_mapIdx

/-- A phase of counted requests, in either set-up. -/
theorem abs_counting (m : MqttApp) (ps : List (Text × MqttRequest)) {rs : List AdnRequest}
    (hlength : ps.length = rs.length) {next : MqttApp → MqttApp} (next' : Setup → Setup)
    (hnext : ∀ m, abs (next m) = next' (abs m)) :
    abs (m.counting ps next) =
      let s' := { abs m with request_count := rs.length, return_count := 0 }
      if rs = [] then next' s' else s' := by
  unfold counting
  dsimp only
  have hnil : ps = [] ↔ rs = [] := by
    rw [← List.length_eq_zero_iff, ← List.length_eq_zero_iff, hlength]
  by_cases hnone : rs = []
  · rw [if_pos hnone, if_pos (hnil.mpr hnone), hnext, ← hlength]
    rfl
  · rw [if_neg hnone, if_neg fun h => hnone (hnil.mp h), ← hlength]
    rfl

/-- The named subscriptions are as many with addresses as without. -/
theorem length_crtsub (m : MqttApp) (subs : List Subscription) :
    (subs.filterMap fun s => c.crtsub (autoset c m s)).length
      = ((subs.map unaddress).filterMap c.crtsub).length := by
  rw [List.filterMap_map, List.length_filterMap_eq_countP, List.length_filterMap_eq_countP]
  congr 1
  funext s
  simp [Conf.crtsub, subname_autoset, unaddress]

theorem length_delsub (subs : List Subscription) :
    (subs.filterMap c.delsub).length = ((subs.map unaddress).filterMap c.delsub).length := by
  rw [List.filterMap_map]
  rfl

theorem abs_enter (m : MqttApp) (phase : ShState) :
    abs (m.enter phase) = { abs m with sh_state := phase } := rfl

theorem abs_interval {m : MqttApp} (generated : ℕ → Text)
    (h : ¬ (m.sh_state = some .crtsub ∧ ∃ s ∈ m.usesubname, Unaddressed s)) :
    abs (m.interval c generated) = Setup.interval (setup_conf c) (abs m) [] := by
  have hlength := length_tick c m generated
  have hreached := unaddress_reached c m m.usesubname
  have hcrtsub := length_crtsub c m m.usesubname
  obtain ⟨sh_state, request_count, return_count, useaeid, usesubname, socket_arr, listening,
    crashed, adn, written⟩ := m
  cases sh_state with
  | none => rfl
  | some phase =>
    cases phase with
    | crtae => rfl
    | rtvae => rfl
    | crtct =>
      exact abs_counting _ _ hlength (fun s => { s with sh_state := .delsub })
        fun m => abs_enter m .delsub
    | delsub =>
      exact abs_counting _ _ (hlength.trans (length_delsub c usesubname))
        (fun s => { s with sh_state := .crtsub }) fun m => abs_enter m .crtsub
    | crtsub =>
      have haddressed : ¬ ∃ s ∈ usesubname, Unaddressed s := fun hu => h ⟨rfl, hu⟩
      dsimp only at hreached hcrtsub hlength
      rw [requests] at hlength
      dsimp only at hlength
      rw [reached_eq haddressed, hcrtsub] at hlength
      unfold interval
      dsimp only
      rw [if_neg haddressed, abs_counting _ _ hlength (Setup.connect (setup_conf c)) (abs_listen c)]
      unfold abs
      dsimp only
      rw [hreached]
      rfl
    | crtci => rfl

theorem abs_interval_ends {m : MqttApp} (generated : ℕ → Text)
    (h : m.sh_state = some .crtsub ∧ ∃ s ∈ m.usesubname, Unaddressed s) :
    abs (m.interval c generated) = abs { m with crashed := true } := by
  have hreached := unaddress_reached c m m.usesubname
  obtain ⟨sh_state, request_count, return_count, useaeid, usesubname, socket_arr, listening,
    crashed, adn, written⟩ := m
  obtain ⟨rfl, hends⟩ := h
  dsimp only at hreached hends
  unfold interval
  dsimp only
  rw [if_pos hends]
  unfold abs sends
  dsimp only
  rw [hreached]

/-! ### Responses -/

theorem abs_counted (m : MqttApp) {next : MqttApp → MqttApp} (next' : Setup → Setup)
    (hnext : ∀ m, abs (next m) = next' (abs m)) :
    abs (m.counted next) = (abs m).counted next' := by
  unfold counted Setup.counted
  dsimp only
  by_cases hlast : m.return_count + 1 = m.request_count
  · rw [if_pos hlast, hnext]
    exact (if_pos hlast).symm
  · rw [if_neg hlast]
    exact (if_neg hlast).symm

theorem abs_ae_response_action (m : MqttApp) (pc : Pc) :
    abs (m.ae_response_action pc)
      = Setup.ae_response_action (setup_conf c) (abs m) (ae_body pc) := by
  unfold ae_response_action ae_body
  cases pc.aei with
  | none => rfl
  | some aei => rfl

theorem abs_callback {m : MqttApp} (hm : m.crashed = false) (r : MqttRequest) (path : Option Text)
    (rsc : Option ℕ) (pc : Pc) :
    abs (m.callback r path rsc pc)
      = run (Setup.step (setup_conf c)) (abs m) (m.callback_events r path rsc pc) := by
  cases r with
  | adn r =>
    cases r with
    | crtae parent_path appname appid =>
      rw [callback_events, run_cons, run_nil, step_abs c hm]
      dsimp only [callback, Setup.callback, adn_rsc]
      split_ifs
      · exact abs_ae_response_action c m pc
      · rfl
      · rfl
    | rtvae p =>
      rw [callback_events, run_cons, run_nil, step_abs c hm]
      dsimp only [callback, Setup.callback, adn_rsc]
      by_cases hok : rsc = some 5106
      · rw [if_pos (Or.inl hok), if_pos hok, if_pos rfl]
        exact abs_ae_response_action c m pc
      · rw [if_neg hok]
        by_cases hread : rsc = some 2000
        · rw [if_pos (Or.inr hread), if_pos hread]
          exact abs_ae_response_action c m pc
        · rw [if_neg hread, if_neg fun h => h.elim hok hread]
    | crtct parent_path ctname =>
      rw [callback_events, run_cons, run_nil, step_abs c hm]
      dsimp only [callback, Setup.callback, adn_rsc]
      split_ifs
      · exact abs_counted m (fun s => { s with sh_state := .delsub }) fun m => abs_enter m .delsub
      · rfl
    | delsub p =>
      rw [callback_events, run_cons, run_nil, step_abs c hm]
      dsimp only [callback, Setup.callback, adn_rsc]
      split_ifs
      · exact abs_counted m (fun s => { s with sh_state := .crtsub }) fun m => abs_enter m .crtsub
      · rfl
    | crtsub parent_path subname nu =>
      rw [callback_events, run_cons, run_nil, step_abs c hm]
      dsimp only [callback, Setup.callback, adn_rsc]
      split_ifs
      · exact abs_counted m (Setup.connect (setup_conf c)) (abs_listen c)
      · rfl
  | crtci socket parent_path content =>
    cases path with
    | none =>
      rw [callback_events, run_cons, run_nil, step_ending c hm]
      rfl
    | some path =>
      -- the status first, then what becomes of the reply
      have hreply : ∀ m : MqttApp, m.crashed = false →
          abs (m.write (container path) rsc pc)
          = run (Setup.step (setup_conf c)) (abs m)
              (if m.socket_arr (container path) = none then [ending] else []) := by
        intro m hm
        unfold write
        cases hsocket : m.socket_arr (container path) with
        | none =>
          rw [if_pos rfl, run_cons, run_nil, step_ending c hm]
        | some socket =>
          rw [if_neg (by simp)]
          rfl
      dsimp only [callback, callback_events]
      rw [run_append]
      by_cases hstatus : rsc = some 5000
      · have hrespond : run (Setup.step (setup_conf c)) (abs m) [.respond rsc]
            = abs (m.enter .crtae) := by
          rw [run_cons, run_nil, step_abs c hm, hstatus]
          rfl
        rw [if_pos hstatus, hrespond]
        unfold reply
        rw [if_pos hstatus]
        exact hreply (m.enter .crtae) hm
      · unfold reply
        rw [if_neg hstatus, if_neg hstatus]
        exact hreply m hm

theorem abs_response {m : MqttApp} (hm : m.crashed = false) (rqi : Text) (rsc : Option ℕ)
    (pc : Pc) :
    abs (m.response rqi rsc pc)
      = run (Setup.step (setup_conf c)) (abs m) (m.setup_events (.response rqi rsc pc)) := by
  have hne : ¬ (m.crashed = true) := by rw [hm]; exact Bool.false_ne_true
  rw [setup_events, if_neg hne]
  unfold response
  dsimp only
  split_ifs
  · cases m.adn.callback_q rqi with
    | none => rw [run_cons, run_nil, step_ending c hm]
    | some r =>
      rw [← abs_callback c hm]
      dsimp only
      split_ifs
      · rfl
      · rfl
  · rfl

/-- **The set-up over MQTT is that over HTTP**: every step is a run of it. -/
theorem abs_step (m : MqttApp) (e : MqttAppEvent) :
    abs (m.step c e) = run (Setup.step (setup_conf c)) (abs m) (m.setup_events e) := by
  by_cases hm : m.crashed = true
  · have hnone : m.setup_events e = [] := if_pos hm
    rw [step_crashed c hm, hnone]
    rfl
  have hne : ¬ (m.crashed = true) := hm
  rw [Bool.not_eq_true] at hm
  rw [step_alive c hm]
  cases e with
  | connect =>
    rw [setup_events, if_neg hne, run_cons, run_nil, step_abs c hm]
    rfl
  | interval generated =>
    rw [setup_events, if_neg hne]
    dsimp only
    by_cases hends : m.sh_state = some .crtsub ∧ ∃ s ∈ m.usesubname, Unaddressed s
    · rw [if_pos hends, run_cons, run_nil, step_ending c hm]
      exact abs_interval_ends c generated hends
    · rw [if_neg hends, run_cons, run_nil, step_abs c hm]
      exact abs_interval c generated hends
  | line socket ctname content text rqi =>
    have hline : abs (m.line c socket ctname content text rqi) = abs m := by
      unfold line
      dsimp only
      split_ifs
      · rfl
      · split
        · rfl
        · rfl
      · rfl
    rw [setup_events, if_neg hne]
    dsimp only
    split_ifs
    · exact hline
    · rfl
  | response rqi rsc pc => exact abs_response c hm rqi rsc pc

/-! ## Once -/

/-- The set-up is complete and the process alive. -/
def Serves (m : MqttApp) : Prop := m.sh_state = some .crtci ∧ m.crashed = false

instance (m : MqttApp) : Decidable m.Serves := inferInstanceAs (Decidable (_ ∧ _))

theorem serves_abs (m : MqttApp) : (abs m).Serves ↔ m.Serves := by
  refine and_congr_left fun _ => ?_
  change m.sh_state.getD .crtae = .crtci ↔ m.sh_state = some .crtci
  cases m.sh_state with
  | none => simp
  | some phase => simp

/-- What takes a gateway out of `crtci`: a client that is connected again, a late answer to a
request for the AE, the status 5000, and a response that cannot be handed on or replied to. -/
def Leaves (m : MqttApp) : MqttAppEvent → Prop
  | .connect => True
  | .response rqi rsc _ => m.adn.Waits rqi ∧
    match m.adn.callback_q rqi with
    | none => True
    | some (.adn (.crtae _ _ _)) => rsc = some 5106 ∨ rsc = some 2001 ∨ rsc = some 4105
    | some (.adn (.rtvae _)) => rsc = some 5106 ∨ rsc = some 2000
    | some (.crtci _ _ _) => rsc = some 5000 ∨
      ∀ path, m.adn.resp_mqtt_path_arr rqi = some path → m.socket_arr (container path) = none
    | some _ => False
  | _ => False

end MqttApp

namespace Setup

variable (c : Conf)

/-- A gateway that has left `crtci` does not serve again, whatever comes. -/
theorem not_serves_run {s : Setup} (hlistening : s.listening = true) (hs : ¬ s.Serves)
    (es : List SetupEvent) : ¬ (run (step c) s es).Serves := by
  have hstep : ∀ (s : Setup) e, s.listening = true ∧ ¬ s.Serves →
      (s.step c e).listening = true ∧ ¬ (s.step c e).Serves :=
    fun s e h => ⟨listening_step c e h.1, not_serves_step c e h.1 h.2⟩
  exact (invariant hstep ⟨hlistening, hs⟩ es).2

/-- What several events do to a gateway that serves. -/
theorem serves_run {s : Setup} (hi : s.Inv) (hs : s.Serves) (es : List SetupEvent) :
    (run (step c) s es).Serves ↔ ∀ e ∈ es, ¬ s.Leaves e := by
  induction es generalizing s with
  | nil => exact iff_of_true hs fun e he => absurd he List.not_mem_nil
  | cons e es ih =>
    rw [run_cons, List.forall_mem_cons]
    have hstep := serves_step c e hi hs
    by_cases hleaves : s.Leaves e
    · refine iff_of_false ?_ fun h => h.1 hleaves
      exact not_serves_run c (listening_step c e (hi.listening hs)) (fun h => hstep.mp h hleaves) es
    · rw [ih (inv_step c s e hi) (hstep.mpr hleaves)]
      exact (and_iff_right hleaves).symm

end Setup

namespace MqttApp

theorem leaves_iff {m : MqttApp} (hs : m.Serves) (e : MqttAppEvent) :
    (∀ e' ∈ m.setup_events e, ¬ (abs m).Leaves e') ↔ ¬ m.Leaves e := by
  obtain ⟨hstate, halive⟩ := hs
  have hne : ¬ (m.crashed = true) := by rw [halive]; exact Bool.false_ne_true
  have hending : (abs m).Leaves ending := Or.inr (Or.inl rfl)
  cases e with
  | connect =>
    rw [setup_events, if_neg hne]
    refine iff_of_false (fun h => h _ (List.mem_singleton_self _) rfl) fun h => h trivial
  | interval generated =>
    rw [setup_events, if_neg hne, if_neg fun h => absurd (hstate.symm.trans h.1) (by simp)]
    refine iff_of_true ?_ id
    intro e' he'
    rw [List.mem_singleton.mp he']
    exact id
  | line =>
    rw [setup_events, if_neg hne]
    exact iff_of_true (fun e' he' => absurd he' List.not_mem_nil) id
  | response rqi rsc pc =>
    rw [setup_events, if_neg hne]
    dsimp only [Leaves]
    by_cases hrqi : m.adn.Waits rqi
    · rw [if_pos hrqi]
      cases hcallback : m.adn.callback_q rqi with
      | none =>
        exact iff_of_false (fun h => h _ (List.mem_singleton_self _) hending)
          fun h => h ⟨hrqi, trivial⟩
      | some r =>
        dsimp only
        rw [and_iff_right hrqi]
        cases r with
        | adn r =>
          rw [callback_events, List.forall_mem_singleton]
          cases r with
          | crtae parent_path appname appid => exact Iff.rfl
          | rtvae path =>
            apply not_congr
            dsimp only [Setup.Leaves, adn_rsc]
            by_cases hok : rsc = some 5106
            · rw [if_pos hok]
              exact iff_of_true rfl (Or.inl hok)
            · rw [if_neg hok]
              exact (or_iff_right hok).symm
          | crtct => exact Iff.rfl
          | delsub => exact Iff.rfl
          | crtsub => exact Iff.rfl
        | crtci socket parent_path content =>
          cases hpath : m.adn.resp_mqtt_path_arr rqi with
          | none =>
            refine iff_of_false (fun h => h _ (List.mem_singleton_self _) hending) fun h => ?_
            exact h (Or.inr fun path hnone => by simp at hnone)
          | some path =>
            dsimp only [callback_events]
            rw [List.forall_mem_append, not_or]
            refine and_congr ?_ ?_
            · by_cases hstatus : rsc = some 5000
              · rw [if_pos hstatus, List.forall_mem_singleton]
                exact Iff.rfl
              · rw [if_neg hstatus]
                exact iff_of_true (fun e' he' => absurd he' List.not_mem_nil) hstatus
            · by_cases hsocket : m.socket_arr (container path) = none
              · rw [if_pos hsocket, List.forall_mem_singleton]
                refine not_congr (iff_of_true hending ?_)
                intro path' hpath'
                rw [← Option.some.inj hpath']
                exact hsocket
              · rw [if_neg hsocket]
                exact iff_of_true (fun e' he' => absurd he' List.not_mem_nil)
                  fun h => hsocket (h path rfl)
    · rw [if_neg hrqi]
      exact iff_of_true (fun e' he' => absurd he' List.not_mem_nil) fun h => hrqi h.1

variable (c : Conf)

/-- The set-up of `conf.json` is completed, but not a second time. -/
example : (run (step conf_json) (init conf_json) started).Serves ∧
    ¬ (run (step conf_json) (init conf_json) (started ++ started)).Serves := by decide +kernel

end MqttApp

end SmartBike.Gateway
