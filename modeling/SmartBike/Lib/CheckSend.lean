/-
Check, send, assign: writers that share one variable and one channel.

Each writer publishes a value in three atomic steps: it tests the shared variable
and goes on only if the value is not there, it sends the value on the channel, it
assigns the value to the variable. The variable is meant to be the last value
sent, so that the test suppresses exactly the repetitions.

Nothing makes the three steps one, so this is not true of every interleaving. It
is true when no writer tests or sends while another one has sent and not yet
assigned (`Orderly`): that window, and not the whole sequence, is the critical
section. `Inv` is the invariant and `step_inv` its preservation.
-/
import Mathlib.Data.List.Chain
import SmartBike.Lib.Run

set_option autoImplicit false

open Runs

namespace CheckSend

variable {ι α : Type*}

/-- Where a writer is in its sequence. -/
inductive Phase (α : Type*) where
  -- not between a test and its assignment
  | idle
  -- the test of `a` found another value; the send is next
  | checked (a : α)
  -- `a` is sent; the assignment is next
  | sent (a : α)
  deriving DecidableEq, Repr

/-- The writer has sent a value and not yet assigned it. -/
def Phase.IsSent (p : Phase α) : Prop := ∃ a, p = .sent a

instance (p : Phase α) : Decidable p.IsSent :=
  match p with
  | .sent a => isTrue ⟨a, rfl⟩
  | .idle => isFalse (by rintro ⟨a, h⟩; simp at h)
  | .checked b => isFalse (by rintro ⟨a, h⟩; simp at h)

@[simp] theorem Phase.isSent_sent (a : α) : (Phase.sent a).IsSent := ⟨a, rfl⟩

@[simp] theorem Phase.not_isSent_idle : ¬ (Phase.idle : Phase α).IsSent := by
  rintro ⟨a, h⟩
  simp at h

@[simp] theorem Phase.not_isSent_checked (a : α) : ¬ (Phase.checked a).IsSent := by
  rintro ⟨b, h⟩
  simp at h

/-- The variable, everything sent so far, oldest first, and the writers. -/
structure State (ι α : Type*) where
  value : Option α
  log : List α
  phase : ι → Phase α

inductive Move (ι α : Type*) where
  | test (i : ι) (a : α)
  | send (i : ι)
  | assign (i : ι)

section Steps

variable [DecidableEq ι] [DecidableEq α]

/-- One atomic step of a writer; a step that is not due does nothing. -/
def step (s : State ι α) : Move ι α → State ι α
  | .test i a =>
    match s.phase i with
    | .idle => if s.value = some a then s else { s with phase := Function.update s.phase i (.checked a) }
    | _ => s
  | .send i =>
    match s.phase i with
    | .checked a => { s with log := s.log ++ [a], phase := Function.update s.phase i (.sent a) }
    | _ => s
  | .assign i =>
    match s.phase i with
    | .sent a => { s with value := some a, phase := Function.update s.phase i .idle }
    | _ => s

/-- No other writer is between its send and its assignment. -/
def Alone (s : State ι α) (i : ι) : Prop := ∀ j, j ≠ i → ¬ (s.phase j).IsSent

/-- Writers test and send only their own values, and only while no other writer is
between its send and its assignment. -/
def Orderly (owner : α → ι) (s : State ι α) : Move ι α → Prop
  | .test i a => owner a = i ∧ Alone s i
  | .send i => Alone s i
  | .assign _ => True

/-- What orderly steps keep. -/
structure Inv (owner : α → ι) (s : State ι α) : Prop where
  -- at most one writer is between its send and its assignment
  one_sent : ∀ i j, (s.phase i).IsSent → (s.phase j).IsSent → i = j
  -- writers are at their own values
  checked_own : ∀ i a, s.phase i = .checked a → owner a = i
  sent_own : ∀ i a, s.phase i = .sent a → owner a = i
  -- a value being assigned is the last one sent
  sent_last : ∀ i a, s.phase i = .sent a → s.log.getLast? = some a
  -- otherwise the variable is the last value sent
  value_last : (∀ i, ¬ (s.phase i).IsSent) → s.value = s.log.getLast?
  -- a value about to be sent is not the last one sent
  checked_new : ∀ i a, s.phase i = .checked a → s.log.getLast? ≠ some a
  -- no value is sent twice in a row
  no_repetition : s.log.IsChain (· ≠ ·)

variable {owner : α → ι}

omit [DecidableEq ι] [DecidableEq α] in
theorem inv_of_idle {s : State ι α} (hidle : ∀ i, s.phase i = .idle)
    (hvalue : s.value = s.log.getLast?) (hlog : s.log.IsChain (· ≠ ·)) : Inv owner s where
  one_sent i j hi _ := by rw [hidle i] at hi; simp at hi
  checked_own i a h := by rw [hidle i] at h; simp at h
  sent_own i a h := by rw [hidle i] at h; simp at h
  sent_last i a h := by rw [hidle i] at h; simp at h
  value_last _ := hvalue
  checked_new i a h := by rw [hidle i] at h; simp at h
  no_repetition := hlog

omit [DecidableEq ι] [DecidableEq α] in
/-- If the writer that tests is idle and alone, nobody is between send and
assignment. -/
theorem Alone.nobody {s : State ι α} {i : ι} (h : Alone s i) (hi : ¬ (s.phase i).IsSent)
    (j : ι) : ¬ (s.phase j).IsSent := by
  by_cases hj : j = i
  · rwa [hj]
  · exact h j hj

omit [DecidableEq ι] [DecidableEq α] in
/-- **The test is exact**: an orderly test suppresses a value precisely when it is
the last one sent. -/
theorem Inv.test_exact {s : State ι α} (h : Inv owner s) {i : ι} (hi : s.phase i = .idle)
    (hal : Alone s i) (a : α) : s.value = some a ↔ s.log.getLast? = some a := by
  rw [h.value_last (hal.nobody (by rw [hi]; simp))]

omit [DecidableEq α] in
/-- Where a writer is after writer `i` has moved to `p`. -/
theorem update_cases {f : ι → Phase α} {i j : ι} {p q : Phase α}
    (h : Function.update f i p j = q) : (j = i ∧ p = q) ∨ (j ≠ i ∧ f j = q) := by
  by_cases hji : j = i
  · subst hji
    exact Or.inl ⟨rfl, by simpa using h⟩
  · rw [Function.update_of_ne hji] at h
    exact Or.inr ⟨hji, h⟩

theorem inv_test {s : State ι α} (h : Inv owner s) {i : ι} {a : α}
    (hown : owner a = i) (hal : Alone s i) : Inv owner (step s (.test i a)) := by
  cases hi : s.phase i with
  | checked b => simpa only [step, hi] using h
  | sent b => simpa only [step, hi] using h
  | idle =>
    have hnobody := hal.nobody (by rw [hi]; simp)
    by_cases hv : s.value = some a
    · simpa only [step, hi, if_pos hv] using h
    · simp only [step, hi, if_neg hv]
      have hnone : ∀ j, ¬ (Function.update s.phase i (.checked a) j).IsSent := by
        rintro j ⟨b, hj⟩
        rcases update_cases hj with ⟨-, hb⟩ | ⟨-, hb⟩
        · simp at hb
        · exact hnobody j ⟨b, hb⟩
      constructor
      · exact fun j _ hj => absurd hj (hnone j)
      · intro j b hj
        rcases update_cases hj with ⟨rfl, hb⟩ | ⟨-, hb⟩
        · rw [Phase.checked.injEq] at hb
          rw [← hb]; exact hown
        · exact h.checked_own j b hb
      · exact fun j b hj => absurd ⟨b, hj⟩ (hnone j)
      · exact fun j b hj => absurd ⟨b, hj⟩ (hnone j)
      · exact fun _ => h.value_last hnobody
      · intro j b hj
        rcases update_cases hj with ⟨rfl, hb⟩ | ⟨-, hb⟩
        · rw [Phase.checked.injEq] at hb
          rw [← hb]
          exact fun hl => hv ((h.test_exact hi hal a).mpr hl)
        · exact h.checked_new j b hb
      · exact h.no_repetition

theorem inv_send {s : State ι α} (h : Inv owner s) {i : ι} (hal : Alone s i) :
    Inv owner (step s (.send i)) := by
  cases hi : s.phase i with
  | idle => simpa only [step, hi] using h
  | sent b => simpa only [step, hi] using h
  | checked a =>
    simp only [step, hi]
    -- the sender is the only writer between send and assignment
    have hsent : ∀ j b, Function.update s.phase i (.sent a) j = .sent b → j = i ∧ a = b := by
      intro j b hj
      rcases update_cases hj with ⟨rfl, hb⟩ | ⟨hji, hb⟩
      · exact ⟨rfl, by simpa using hb⟩
      · exact absurd ⟨b, hb⟩ (hal j hji)
    have hchecked : ∀ j b, Function.update s.phase i (.sent a) j = .checked b →
        j ≠ i ∧ s.phase j = .checked b := by
      intro j b hj
      rcases update_cases hj with ⟨-, hb⟩ | h
      · simp at hb
      · exact h
    constructor
    · rintro j k ⟨b, hj⟩ ⟨c, hk⟩
      exact (hsent j b hj).1.trans (hsent k c hk).1.symm
    · exact fun j b hj => h.checked_own j b (hchecked j b hj).2
    · intro j b hj
      obtain ⟨rfl, rfl⟩ := hsent j b hj
      exact h.checked_own j a hi
    · intro j b hj
      rw [List.getLast?_concat, (hsent j b hj).2]
    · exact fun hnone => absurd ⟨a, by simp⟩ (hnone i)
    · -- another writer's value is not `i`'s, so sending `a` does not make it the last
      intro j b hj
      obtain ⟨hji, hb⟩ := hchecked j b hj
      rw [List.getLast?_concat, ne_eq, Option.some.injEq]
      rintro rfl
      exact hji ((h.checked_own j a hb).symm.trans (h.checked_own i a hi))
    · rw [List.isChain_append]
      refine ⟨h.no_repetition, by simp, ?_⟩
      intro x hx y hy
      obtain rfl : a = y := by simpa using hy
      rintro rfl
      exact h.checked_new i x hi hx

theorem inv_assign {s : State ι α} (h : Inv owner s) (i : ι) :
    Inv owner (step s (.assign i)) := by
  cases hi : s.phase i with
  | idle => simpa only [step, hi] using h
  | checked b => simpa only [step, hi] using h
  | sent a =>
    simp only [step, hi]
    -- `i` was the only writer between send and assignment, and leaves
    have hnone : ∀ j, ¬ (Function.update s.phase i .idle j).IsSent := by
      rintro j ⟨b, hj⟩
      rcases update_cases hj with ⟨-, hb⟩ | ⟨hji, hb⟩
      · simp at hb
      · exact hji (h.one_sent j i ⟨b, hb⟩ ⟨a, hi⟩)
    have hchecked : ∀ j b, Function.update s.phase i .idle j = .checked b →
        s.phase j = .checked b := by
      intro j b hj
      rcases update_cases hj with ⟨-, hb⟩ | ⟨-, hb⟩
      · simp at hb
      · exact hb
    constructor
    · exact fun j _ hj => absurd hj (hnone j)
    · exact fun j b hj => h.checked_own j b (hchecked j b hj)
    · exact fun j b hj => absurd ⟨b, hj⟩ (hnone j)
    · exact fun j b hj => absurd ⟨b, hj⟩ (hnone j)
    · exact fun _ => (h.sent_last i a hi).symm
    · exact fun j b hj => h.checked_new j b (hchecked j b hj)
    · exact h.no_repetition

/-- **What an orderly step preserves.** -/
theorem step_inv (s : State ι α) (m : Move ι α) (h : Inv owner s) (ho : Orderly owner s m) :
    Inv owner (step s m) := by
  cases m with
  | test i a => exact inv_test h ho.1 ho.2
  | send i => exact inv_send h ho
  | assign i => exact inv_assign h i

/-- **What an orderly run preserves.** -/
theorem run_inv {s : State ι α} {ms : List (Move ι α)} (h : Inv owner s)
    (ho : Steps step (Orderly owner) s ms) : Inv owner (run step s ms) :=
  ho.invariant step_inv h

end Steps

end CheckSend
