/-
The `parking_mode` instances the toggle's clicks create, against what the toggle
shows.

Each click posts through a thread and a connection of its own, so nothing orders the
posts. What survives is an accounting (`Posted`): one post for each click, with the
position the click left the toggle in. The latest instance is therefore that of the
post handled last, and it agrees with the toggle when the number of later clicks is
even.
-/
import SmartBike.App.FirstActivity

set_option autoImplicit false

open Runs Delivery

namespace SmartBike.App

namespace FirstActivity

/-- Every click has one post, pending or handled, with the position it has left the
toggle in; the toggle starts unchecked. -/
structure Posted (s : FirstActivity) : Prop where
  once : (s.parking_mode.all.map ControlRequest.click).Perm (List.range s.clicks)
  mode : ∀ req ∈ s.parking_mode.all, req.mode = .parking ↔ req.click % 2 = 0
  toggle : s.isChecked = true ↔ s.clicks % 2 = 1

theorem posted_init : init.Posted := by
  refine ⟨List.Perm.nil, ?_, ?_⟩
  · intro req hreq
    simp [init] at hreq
  · simp [init]

/-- A post more. -/
theorem posted_issue {s s' : FirstActivity} {mode : ParkingMode} (h : s.Posted)
    (hclicks : s'.clicks = s.clicks + 1)
    (hnet : s'.parking_mode = s.parking_mode.issue ⟨s.clicks, mode⟩)
    (hmode : mode = .parking ↔ s.clicks % 2 = 0)
    (htoggle : s'.isChecked = true ↔ s'.clicks % 2 = 1) : s'.Posted := by
  refine ⟨?_, ?_, htoggle⟩
  · rw [hnet, hclicks, Net.all_issue, List.map_append, List.range_succ]
    exact h.once.append_right _
  · intro req hreq
    rw [hnet, Net.all_issue, List.mem_append, List.mem_singleton] at hreq
    rcases hreq with hold | rfl
    · exact h.mode req hold
    · exact hmode

/-- **What one step preserves.** -/
theorem posted_step (s : FirstActivity) (l : Label) (h : s.Posted) : (s.step l).Posted := by
  have htoggle := h.toggle
  cases l with
  | click =>
    change s.onClick.Posted
    unfold onClick
    split_ifs with hchecked
    · have hodd := htoggle.mp hchecked
      apply posted_issue h rfl rfl
      · rw [hodd]
        simp
      · dsimp only
        constructor
        · intro hfalse
          simp at hfalse
        · intro hmod
          omega
    · have heven : s.clicks % 2 = 0 := by
        by_contra hne
        exact hchecked (htoggle.mpr (by omega))
      apply posted_issue h rfl rfl
      · simp [heven]
      · dsimp only
        refine iff_of_true rfl ?_
        omega
  | post i =>
    have hperm := s.parking_mode.all_arrive i
    refine ⟨?_, ?_, htoggle⟩
    · exact (hperm.map _).trans h.once
    · intro req hreq
      exact h.mode req (hperm.mem_iff.mp hreq)
  | poll i answer =>
    obtain ⟨hchecked, hclicks, -, hnet⟩ := s.poll_frame i answer
    change (s.poll i answer).Posted
    refine ⟨?_, ?_, ?_⟩
    · rw [hnet, hclicks]
      exact h.once
    · rw [hnet]
      exact h.mode
    · rw [hchecked, hclicks]
      exact htoggle

theorem posted_run (labels : List Label) : (run step init labels).Posted :=
  invariant posted_step posted_init labels

/-- **The last post handled wins.** Once every post is handled, the server has one
instance for each click; the latest one is of some click, and it is `1` exactly when the
toggle shows checked if an even number of clicks followed that one, and exactly when it
does not if an odd number did. -/
theorem last_post_wins (labels : List Label)
    (hdone : (run step init labels).parking_mode.pending = [])
    (hclick : 0 < (run step init labels).clicks) :
    ((run step init labels).parking_mode.arrived.map ControlRequest.click).Perm
        (List.range (run step init labels).clicks) ∧
      ∃ req, (run step init labels).parking_mode.arrived.getLast? = some req ∧
        req.click < (run step init labels).clicks ∧
        ((req.mode.con = "1" ↔ (run step init labels).isChecked = true) ↔
          ((run step init labels).clicks - 1 - req.click) % 2 = 0) := by
  have h := posted_run labels
  generalize run step init labels = s at h hdone hclick ⊢
  have hall : s.parking_mode.all = s.parking_mode.arrived := by
    rw [Net.all, hdone, List.append_nil]
  have honce := h.once
  rw [hall] at honce
  refine ⟨honce, ?_⟩
  -- there is a last instance: as many as clicks were created
  have hlen := honce.length_eq
  rw [List.length_map, List.length_range] at hlen
  obtain ⟨req, hreq⟩ : ∃ req, s.parking_mode.arrived.getLast? = some req := by
    cases hlast : s.parking_mode.arrived.getLast? with
    | some req => exact ⟨req, rfl⟩
    | none =>
      rw [List.getLast?_eq_none_iff] at hlast
      rw [hlast, List.length_nil] at hlen
      omega
  have hmem : req ∈ s.parking_mode.arrived := List.mem_of_getLast? hreq
  have hlt : req.click < s.clicks := by
    rw [← List.mem_range]
    exact honce.mem_iff.mp (List.mem_map_of_mem hmem)
  have hmode := h.mode req (by rw [hall]; exact hmem)
  have hcon : req.mode.con = "1" ↔ req.click % 2 = 0 := by
    rw [← hmode]
    cases req.mode <;> simp [ParkingMode.con]
  refine ⟨req, hreq, hlt, ?_⟩
  rw [hcon, h.toggle]
  omega

/-- Three clicks, the posts of the first two handled in the other order, the last one
last. -/
theorem last_post_wins_in_turn :
    ((run step init [.click, .click, .post 1, .click, .post 0, .post 0]).parking_mode.arrived.map
        ControlRequest.click).Perm (List.range 3) ∧
      ∃ req, (run step init [.click, .click, .post 1, .click, .post 0,
          .post 0]).parking_mode.arrived.getLast? = some req ∧ req.click < 3 ∧
        ((req.mode.con = "1" ↔ (run step init [.click, .click, .post 1, .click, .post 0,
          .post 0]).isChecked = true) ↔ (3 - 1 - req.click) % 2 = 0) :=
  last_post_wins [.click, .click, .post 1, .click, .post 0, .post 0] (by decide) (by decide)

/-- On and off, the two posts handled in the other order: the toggle is off and the
latest instance is `1`. -/
theorem last_click_loses :
    ¬ ∀ labels : List Label, (run step init labels).parking_mode.pending = [] →
      0 < (run step init labels).clicks →
      ∀ req, (run step init labels).parking_mode.arrived.getLast? = some req →
        (req.mode.con = "1" ↔ (run step init labels).isChecked = true) := by
  intro h
  have hiff := h [.click, .click, .post 1, .post 0] (by decide) (by decide) ⟨0, .parking⟩
    (by decide)
  simp [ParkingMode.con, step, onClick, init] at hiff

end FirstActivity

end SmartBike.App
