/-
Who gets a notification: the gateway's map from container names to sockets.

Every message that names a container registers the socket it came from, and the map
keeps one socket a name. It is the library's registry over the messages handled so far
(`socket_arr_run`), so that a notification goes to the socket of the last message for
its container, to no other, and whether or not that socket still exists.
-/
import SmartBike.Gateway.Tas
import SmartBike.Lib.Registry

set_option autoImplicit false

open Runs

namespace SmartBike.Gateway.Tas

/-! ## Registrations -/

/-- The registration line 346 makes for a line, if it gets there. -/
def registered (g : Tas) (socket : ℕ) (line : Text) : List (Text × ℕ) :=
  if g.crashed then []
  else
    match JSON.message line with
    | none => []
    | some (ctname, _, _) => [(ctname, socket)]

/-- The registrations of one step of the gateway. -/
def registrations (g : Tas) : Label → List (Text × ℕ)
  | .data socket data =>
    let data_arr := (g.buffers socket ++ data).splitOn '}'
    if g.crashed = false ∧ 2 ≤ data_arr.length then
      emitted (fun g l => g.line socket (l ++ ['}'])) (fun g l => g.registered socket (l ++ ['}']))
        { g with buffers := Function.update g.buffers socket [] } data_arr.dropLast
    else []
  | _ => []

theorem socket_arr_line (g : Tas) (socket : ℕ) (l : Text) :
    (g.line socket l).socket_arr = Registry.fill g.socket_arr (g.registered socket l) := by
  unfold line registered
  by_cases hg : g.crashed = true
  · rw [if_pos hg, if_pos hg]
    rfl
  · rw [if_neg hg, if_neg hg]
    rcases JSON.message l with _ | ⟨ctname, content, con⟩
    · rfl
    · dsimp only
      split_ifs
      · rfl
      · rfl
      · rfl

theorem socket_arr_lines (g : Tas) (socket : ℕ) (ls : List Text) :
    (g.lines socket ls).socket_arr = Registry.fill g.socket_arr
      (emitted (fun g l => g.line socket (l ++ ['}']))
        (fun g l => g.registered socket (l ++ ['}'])) g ls) := by
  induction ls generalizing g with
  | nil => rfl
  | cons l ls ih => rw [lines_cons, ih, socket_arr_line, emitted_cons, Registry.fill_append]

/-- **What one step does to the map.** -/
theorem socket_arr_step (g : Tas) (l : Label) :
    (g.step l).socket_arr = Registry.fill g.socket_arr (g.registrations l) := by
  by_cases hg : g.crashed = false
  · rw [step_alive hg]
    cases l with
    | data socket d =>
      unfold handle data registrations
      dsimp only
      by_cases hlen : 2 ≤ ((g.buffers socket ++ d).splitOn '}').length
      · rw [if_pos hlen, if_pos ⟨hg, hlen⟩, socket_arr_lines]
      · rw [if_neg hlen, if_neg fun h => hlen h.2]
        rfl
    | notify ctname con =>
      obtain ⟨written, heq⟩ := g.send_tas_frame ctname con
      rw [handle, heq]
      rfl
    | connect | close | arrive | respond | interval => rfl
  · rw [Bool.not_eq_false] at hg
    have hnone : g.registrations l = [] := by
      cases l <;> simp [registrations, hg]
    rw [hnone]
    cases l <;> simp [step, hg, handle]

/-- **What a run does to the map.** -/
theorem socket_arr_run (g : Tas) (labels : List Label) :
    (run step g labels).socket_arr
      = Registry.fill g.socket_arr (emitted step registrations g labels) := by
  induction labels generalizing g with
  | nil => rfl
  | cons l labels ih => rw [run_cons, ih, socket_arr_step, emitted_cons, Registry.fill_append]

/-- **What a notification does.** -/
theorem written_notify {g : Tas} (hg : g.crashed = false) (ctname : Text) {con : Text}
    (hcon : con ≠ []) :
    (g.step (.notify ctname con)).written
      = g.written ++ ((g.socket_arr ctname).map fun s => (s, reply ctname con)).toList := by
  rw [step_alive hg, handle, send_tas, if_neg hcon]
  cases g.socket_arr ctname with
  | none => simp
  | some s => rfl

/-- What the message of a script registers, when it comes in one piece. -/
theorem registrations_message {g : Tas} (hg : g.crashed = false) {socket : ℕ}
    (hbuffer : g.buffers socket = []) {ctname con : Text} (hctname : ∀ c ∈ ctname, Plain c)
    (hcon : ∀ c ∈ con, Plain c) :
    g.registrations (.data socket (message ctname con)) = [(ctname, socket)] := by
  have hfree := not_mem_unclosed hctname hcon
  have hsplit : (g.buffers socket ++ message ctname con).splitOn '}'
      = [unclosed ctname con, []] := by
    rw [hbuffer, List.nil_append, message_eq, List.splitOn_append_cons_self,
      List.splitOn_eq_singleton hfree]
    rfl
  unfold registrations
  simp only [hsplit, hg, List.length_cons, List.length_nil, Nat.reduceAdd, le_refl, and_self,
    if_true, List.dropLast_cons_cons, List.dropLast_singleton, emitted_cons, emitted_nil,
    registered, Bool.false_eq_true, if_false, ← message_eq, JSON.message_message hctname hcon,
    List.append_nil]

/-! ## Where a mode goes -/

/-- The socket's message for the container has been handled, and no message for it from
another socket since. -/
def LastFrom (socket : ℕ) (ctname : Text) (labels : List Label) : Prop :=
  ∃ pre post, emitted step registrations init labels = pre ++ (ctname, socket) :: post ∧
    ∀ r ∈ post, r.1 = ctname → r.2 = socket

/-- **Where a mode goes.** A mode the gateway is notified of is written to a socket, once,
exactly when the last message for `parking_mode` came from there; otherwise nothing is
written to it. -/
theorem mode_written_iff (labels : List Label)
    (halive : (run step init labels).crashed = false) (con : Text)
    (hcon : con ∈ ["0".toList, "1".toList]) (socket : ℕ) :
    ((run step init (labels ++ [.notify "parking_mode".toList con])).written
        = (run step init labels).written ++ [(socket, reply "parking_mode".toList con)]
      ↔ LastFrom socket "parking_mode".toList labels) ∧
    (¬ LastFrom socket "parking_mode".toList labels →
      ((run step init (labels ++ [.notify "parking_mode".toList con])).written.filter
        fun w => w.1 = socket) = (run step init labels).written.filter fun w => w.1 = socket) := by
  have hne : con ≠ [] := by
    rintro rfl
    revert hcon
    decide
  have hwritten := written_notify halive "parking_mode".toList hne
  have hlast : (run step init labels).socket_arr "parking_mode".toList = some socket
      ↔ LastFrom socket "parking_mode".toList labels := by
    rw [socket_arr_run]
    exact Registry.fill_eq_some_iff _ _ _
  rw [run_concat, hwritten, ← hlast]
  cases hto : (run step init labels).socket_arr "parking_mode".toList with
  | none => simp
  | some s =>
    refine ⟨?_, ?_⟩
    · simp
    · intro hs
      have hne' : s ≠ socket := fun heq => hs (congrArg some heq)
      simp [hne']

section Runs

private def parking_mode : Text := "parking_mode".toList

/-- `parking_thread` registers at socket 0, and a second time after `driving_thread` has
at socket 1. -/
theorem mode_written_after_reconnect :
    (run step init ([.connect 0, .data 0 (message parking_mode []), .connect 1,
      .data 1 (message parking_mode []), .close 0, .connect 2,
      .data 2 (message parking_mode [])] ++ [.notify parking_mode "1".toList])).written
        = [(2, reply parking_mode "1".toList)] := by
  have hlast : LastFrom 2 parking_mode [.connect 0, .data 0 (message parking_mode []),
      .connect 1, .data 1 (message parking_mode []), .close 0, .connect 2,
      .data 2 (message parking_mode [])] :=
    ⟨[(parking_mode, 0), (parking_mode, 1)], [], by decide +kernel, by simp⟩
  have hnone : (run step init [.connect 0, .data 0 (message parking_mode []), .connect 1,
      .data 1 (message parking_mode []), .close 0, .connect 2,
      .data 2 (message parking_mode [])]).written = [] := by decide +kernel
  have h := ((mode_written_iff _ (by decide +kernel) "1".toList (by decide +kernel) 2).1).mpr hlast
  rw [hnone] at h
  exact h

/-- Not so as long as the socket is registered and connected: the registration of
`driving_thread` takes the modes away from `parking_thread`. -/
theorem mode_taken_by_second_registration :
    ¬ ∀ (labels : List Label) (con : Text) (socket : ℕ), con ∈ ["0".toList, "1".toList] →
      (run step init labels).crashed = false →
      (parking_mode, socket) ∈ emitted step registrations init labels →
      Label.close socket ∉ labels →
      (socket, reply parking_mode con) ∈
        (run step init (labels ++ [.notify parking_mode con])).written := by
  intro h
  have hwritten := h [.connect 0, .data 0 (message parking_mode []), .connect 1,
    .data 1 (message parking_mode [])] "1".toList 0 (by decide +kernel) (by decide +kernel)
    (by decide +kernel) (by decide +kernel)
  revert hwritten
  decide +kernel

end Runs

end SmartBike.Gateway.Tas
