/-
Runs of a deterministic labelled transition system.

A system is a step function `step : S → L → S`; everything it does not decide by
itself (which thread moves, what a read returns, what the network delivers) is in
the label, so that "for every interleaving and every input" is "for every list of
labels". Three things are settled here once: what holds after a run
(`Steps.invariant`), when a property of all the states of a run is *exactly* a
condition on its steps (`forall_prefix_iff_steps`), and how the run of one system
is read as a run of a more abstract one (`Refinement.abs_run`).
-/
import Mathlib.Data.List.Infix

set_option autoImplicit false

namespace Runs

variable {S L : Type*}

/-! ## Runs -/

/-- The state after the steps `ls`, oldest first. -/
def run (step : S → L → S) (s : S) (ls : List L) : S := ls.foldl step s

variable {step : S → L → S}

@[simp] theorem run_nil (s : S) : run step s [] = s := rfl

@[simp] theorem run_cons (s : S) (l : L) (ls : List L) :
    run step s (l :: ls) = run step (step s l) ls := rfl

theorem run_append (s : S) (ls ls' : List L) :
    run step s (ls ++ ls') = run step (run step s ls) ls' :=
  List.foldl_append

theorem run_concat (s : S) (ls : List L) (l : L) :
    run step s (ls ++ [l]) = step (run step s ls) l := by
  rw [run_append, run_cons, run_nil]

/-! ## What a run emits -/

section Emitted

variable {O : Type*} (emit : S → L → List O)

/-- What the steps of a run emit, in order. -/
def emitted (step : S → L → S) (emit : S → L → List O) : S → List L → List O
  | _, [] => []
  | s, l :: ls => emit s l ++ emitted step emit (step s l) ls

@[simp] theorem emitted_nil (s : S) : emitted step emit s [] = [] := rfl

@[simp] theorem emitted_cons (s : S) (l : L) (ls : List L) :
    emitted step emit s (l :: ls) = emit s l ++ emitted step emit (step s l) ls := rfl

theorem emitted_append (s : S) (ls ls' : List L) :
    emitted step emit s (ls ++ ls')
      = emitted step emit s ls ++ emitted step emit (run step s ls) ls' := by
  induction ls generalizing s with
  | nil => rfl
  | cons l ls ih => simp only [List.cons_append, emitted_cons, run_cons, ih, List.append_assoc]

theorem emitted_concat (s : S) (ls : List L) (l : L) :
    emitted step emit s (ls ++ [l]) = emitted step emit s ls ++ emit (run step s ls) l := by
  rw [emitted_append, emitted_cons, emitted_nil, List.append_nil]

/-- Where steps emit one thing at most, a split of what is emitted is a split of the
run. -/
theorem emitted_split {emit : S → L → List O} (h1 : ∀ s l, (emit s l).length ≤ 1) {s : S}
    {ls : List L} {pre post : List O} (h : emitted step emit s ls = pre ++ post) :
    ∃ ls₁ ls₂, ls = ls₁ ++ ls₂ ∧ emitted step emit s ls₁ = pre ∧
      emitted step emit (run step s ls₁) ls₂ = post := by
  induction ls generalizing s pre with
  | nil =>
    obtain ⟨rfl, rfl⟩ := List.append_eq_nil_iff.mp h.symm
    exact ⟨[], [], rfl, rfl, rfl⟩
  | cons l ls ih =>
    cases pre with
    | nil => exact ⟨[], l :: ls, rfl, rfl, h⟩
    | cons o pre =>
      rw [emitted_cons, List.cons_append] at h
      have hle := h1 s l
      rcases hemit : emit s l with _ | ⟨o', rest⟩
      · rw [hemit, List.nil_append] at h
        obtain ⟨ls₁, ls₂, rfl, hpre, hpost⟩ := @ih (step s l) (o :: pre) h
        refine ⟨l :: ls₁, ls₂, rfl, ?_, hpost⟩
        rw [emitted_cons, hemit, hpre, List.nil_append]
      · have hrest : rest = [] := by
          rw [hemit, List.length_cons] at hle
          exact List.eq_nil_of_length_eq_zero (by omega)
        rw [hemit, hrest, List.cons_append, List.nil_append] at h
        obtain ⟨rfl, htail⟩ := List.cons.inj h
        obtain ⟨ls₁, ls₂, rfl, hpre, hpost⟩ := ih htail
        refine ⟨l :: ls₁, ls₂, rfl, ?_, hpost⟩
        rw [emitted_cons, hemit, hrest, hpre, List.cons_append, List.nil_append]

end Emitted

/-! ## Conditions on the steps of a run -/

/-- Every step of the run meets `C`, in the state in which it is taken. -/
def Steps (step : S → L → S) (C : S → L → Prop) : S → List L → Prop
  | _, [] => True
  | s, l :: ls => C s l ∧ Steps step C (step s l) ls

variable {C : S → L → Prop}

instance Steps.decidable [∀ s l, Decidable (C s l)] :
    ∀ (s : S) (ls : List L), Decidable (Steps step C s ls)
  | _, [] => isTrue trivial
  | s, l :: ls =>
    have := Steps.decidable (step s l) ls
    inferInstanceAs (Decidable (C s l ∧ Steps step C (step s l) ls))

@[simp] theorem steps_nil (s : S) : Steps step C s [] := trivial

@[simp] theorem steps_cons (s : S) (l : L) (ls : List L) :
    Steps step C s (l :: ls) ↔ C s l ∧ Steps step C (step s l) ls := Iff.rfl

theorem steps_append (s : S) (ls ls' : List L) :
    Steps step C s (ls ++ ls') ↔ Steps step C s ls ∧ Steps step C (run step s ls) ls' := by
  induction ls generalizing s with
  | nil => simp
  | cons l ls ih => simp only [List.cons_append, steps_cons, run_cons, ih, and_assoc]

theorem steps_concat (s : S) (ls : List L) (l : L) :
    Steps step C s (ls ++ [l]) ↔ Steps step C s ls ∧ C (run step s ls) l := by
  rw [steps_append, steps_cons]
  simp

/-- A condition that the labels of a run meet in every state is met along it. -/
theorem Steps.of_labels {ls : List L} (h : ∀ l ∈ ls, ∀ s, C s l) (s : S) : Steps step C s ls := by
  induction ls generalizing s with
  | nil => trivial
  | cons l ls ih =>
    rw [List.forall_mem_cons] at h
    exact ⟨h.1 s, ih h.2 _⟩

/-- A condition that every step meets is met along every run. -/
theorem Steps.of_forall (h : ∀ s l, C s l) (s : S) (ls : List L) : Steps step C s ls :=
  Steps.of_labels (fun l _ s => h s l) s

/-- A condition on the labels alone is a condition on the list of labels. -/
theorem steps_label_iff {p : L → Prop} (s : S) (ls : List L) :
    Steps step (fun _ l => p l) s ls ↔ ∀ l ∈ ls, p l := by
  induction ls generalizing s with
  | nil => simp
  | cons l ls ih => simp only [steps_cons, ih, List.forall_mem_cons]

/-- No step emits anything exactly if nothing is emitted. -/
theorem steps_emitted_nil {O : Type*} {emit : S → L → List O} (s : S) (ls : List L) :
    Steps step (fun s l => emit s l = []) s ls ↔ emitted step emit s ls = [] := by
  induction ls generalizing s with
  | nil => simp
  | cons l ls ih => rw [steps_cons, emitted_cons, List.append_eq_nil_iff, ih]

/-- **The invariant rule.** What one step preserves, in states and under labels
that meet `C`, a whole run of such steps preserves. -/
theorem Steps.invariant {Inv : S → Prop} (hstep : ∀ s l, Inv s → C s l → Inv (step s l))
    {s : S} {ls : List L} (h : Steps step C s ls) (h0 : Inv s) : Inv (run step s ls) := by
  induction ls generalizing s with
  | nil => exact h0
  | cons l ls ih => exact ih h.2 (hstep s l h0 h.1)

/-- The invariant rule for a property that every step preserves. -/
theorem invariant {Inv : S → Prop} (hstep : ∀ s l, Inv s → Inv (step s l))
    {s : S} (h0 : Inv s) (ls : List L) : Inv (run step s ls) :=
  Steps.invariant (C := fun _ _ => True) (fun s l hs _ => hstep s l hs)
    (Steps.of_forall (fun _ _ => trivial) s ls) h0

/-- A condition on the steps together with an invariant they keep. -/
theorem Steps.with_invariant {Inv : S → Prop}
    (hstep : ∀ s l, Inv s → C s l → Inv (step s l)) {s : S} {ls : List L}
    (h : Steps step C s ls) (h0 : Inv s) : Steps step (fun s l => Inv s ∧ C s l) s ls := by
  induction ls generalizing s with
  | nil => trivial
  | cons l ls ih => exact ⟨⟨h0, h.1⟩, ih h.2 (hstep s l h0 h.1)⟩

/-- Two conditions that say the same of the states of an invariant say the same of the
runs that keep it. -/
theorem steps_congr {C' : S → L → Prop} {Inv : S → Prop}
    (hstep : ∀ s l, Inv s → C' s l → Inv (step s l)) (hiff : ∀ s l, Inv s → (C s l ↔ C' s l))
    {s : S} (h0 : Inv s) (ls : List L) : Steps step C s ls ↔ Steps step C' s ls := by
  induction ls generalizing s with
  | nil => exact Iff.rfl
  | cons l ls ih =>
    rw [steps_cons, steps_cons, hiff s l h0]
    exact and_congr_right fun hC => ih (hstep s l h0 hC)

/-- **The exactness rule.** If steps that meet `C` keep an invariant that implies
`P`, and a step that does not meet `C` leads from the invariant straight out of
`P`, then all the states of a run have `P` exactly when all its steps meet `C`. -/
theorem forall_prefix_iff_steps {Inv P : S → Prop}
    (hgood : ∀ s l, Inv s → C s l → Inv (step s l)) (hP : ∀ s, Inv s → P s)
    (hbad : ∀ s l, Inv s → ¬ C s l → ¬ P (step s l)) {s : S} (h0 : Inv s) (ls : List L) :
    (∀ pre, pre <+: ls → P (run step s pre)) ↔ Steps step C s ls := by
  induction ls generalizing s with
  | nil =>
    refine ⟨fun _ => trivial, fun _ pre hpre => ?_⟩
    rw [List.prefix_nil.mp hpre]
    exact hP s h0
  | cons l ls ih =>
    constructor
    · intro h
      have hC : C s l := by
        by_contra hn
        exact hbad s l h0 hn (h [l] (by simp))
      refine ⟨hC, (ih (hgood s l h0 hC)).mp fun pre hpre => ?_⟩
      exact h (l :: pre) (by simpa using hpre)
    · rintro ⟨hC, hrest⟩ pre hpre
      cases pre with
      | nil => exact hP s h0
      | cons l' pre =>
        obtain ⟨rfl, hpre'⟩ := List.cons_prefix_cons.mp hpre
        exact (ih (hgood s l' h0 hC)).mpr hrest pre hpre'

/-- **The first exit.** A run that starts in `P` either stays there or has a first step out
of it. -/
theorem exists_first_exit {P : S → Prop} (step : S → L → S) {s : S} (h0 : P s) (ls : List L) :
    ∃ pre post, ls = pre ++ post ∧ P (run step s pre) ∧
      ∀ l ∈ post.head?, ¬ P (run step s (pre ++ [l])) := by
  induction ls generalizing s with
  | nil => exact ⟨[], [], rfl, h0, by simp⟩
  | cons l ls ih =>
    by_cases hl : P (step s l)
    · obtain ⟨pre, post, rfl, hpre, hpost⟩ := ih hl
      exact ⟨l :: pre, post, rfl, hpre, hpost⟩
    · refine ⟨[], l :: ls, rfl, h0, ?_⟩
      intro l' hl'
      obtain rfl : l = l' := by simpa using hl'
      exact hl

/-! ## A phase that is entered once -/

/-- **The rule for a phase entered once.** If the system comes to be `on` only from a
`fresh` state and is `on` until a step that `leaves`, then it is `on` exactly after a step
from a `fresh` state and others that do not leave. -/
theorem on_iff_entered {Inv fresh on : S → Prop} {leaves : S → L → Prop}
    (hinv : ∀ s l, Inv s → Inv (step s l)) (happart : ∀ s, fresh s → ¬ on s)
    (hon : ∀ s l, Inv s → on s → (on (step s l) ↔ ¬ leaves s l))
    (hover : ∀ s l, Inv s → ¬ fresh s → ¬ on s → ¬ on (step s l)) {s : S} (h0 : Inv s)
    (hs : fresh s) (ls : List L) :
    on (run step s ls) ↔ ∃ pre l post, ls = pre ++ l :: post ∧ fresh (run step s pre) ∧
      on (run step s (pre ++ [l])) ∧
      Steps step (fun s l => ¬ leaves s l) (run step s (pre ++ [l])) post := by
  induction ls using List.reverseRecOn with
  | nil => simpa using happart s hs
  | append_singleton ls l ih =>
    have hi : Inv (run step s ls) := invariant hinv h0 ls
    rw [run_concat]
    constructor
    · intro h
      by_cases hfresh : fresh (run step s ls)
      · exact ⟨ls, l, [], rfl, hfresh, by rwa [run_concat], trivial⟩
      · have hbefore : on (run step s ls) := by
          by_contra hnot
          exact hover _ l hi hfresh hnot h
        obtain ⟨pre, l', post, rfl, hpre, hl', hpost⟩ := ih.mp hbefore
        refine ⟨pre, l', post ++ [l], by rw [List.append_assoc, List.cons_append], hpre, hl', ?_⟩
        rw [steps_concat]
        rw [List.append_cons, run_append] at h hbefore hi
        exact ⟨hpost, (hon _ l hi hbefore).mp h⟩
    · rintro ⟨pre, l', post, heq, hpre, hl', hpost⟩
      rcases List.eq_nil_or_concat post with rfl | ⟨post', l'', rfl⟩
      · obtain ⟨rfl, hl⟩ := List.append_inj' heq rfl
        rw [run_concat] at hl'
        rw [(List.cons.inj hl).1]
        exact hl'
      · rw [List.concat_eq_append] at heq hpost
        rw [← List.cons_append, ← List.append_assoc] at heq
        obtain ⟨rfl, hl⟩ := List.append_inj' heq rfl
        obtain ⟨hpost', hstay⟩ := (steps_concat ..).mp hpost
        have hbefore := ih.mpr ⟨pre, l', post', rfl, hpre, hl', hpost'⟩
        rw [(List.cons.inj hl).1]
        refine (hon _ _ hi hbefore).mpr ?_
        rw [List.append_cons, run_append]
        exact hstay

/-! ## Threads

Where the threads of a system are in a list, a step of one of them replaces its entry. -/

/-- How many are alive after a step of one that is. -/
theorem countP_set {T : Type*} (alive : T → Bool) {threads : List T} {i : ℕ} {t t' : T}
    (hi : threads[i]? = some t) (h : alive t = true) :
    (threads.set i t').countP alive + 1
      = threads.countP alive + if alive t' = true then 1 else 0 := by
  obtain ⟨hlt, hget⟩ := List.getElem?_eq_some_iff.mp hi
  have hpos : 0 < threads.countP alive :=
    List.countP_pos_iff.mpr ⟨t, List.mem_of_getElem? hi, h⟩
  rw [List.countP_set hlt, hget, if_pos h]
  omega

/-! ## Refinement -/

/-- A system read as a more abstract one: each of its steps is the abstract steps
`emit` says, possibly none, between the states `abs` says. -/
structure Refinement {A M : Type*} (step : S → L → S) (astep : A → M → A) where
  abs : S → A
  emit : S → L → List M
  abs_step : ∀ s l, abs (step s l) = run astep (abs s) (emit s l)

namespace Refinement

variable {A M : Type*} {astep : A → M → A}

/-- The abstract steps of a whole run. -/
def trace (R : Refinement step astep) : S → List L → List M := emitted step R.emit

@[simp] theorem trace_nil (R : Refinement step astep) (s : S) : R.trace s [] = [] := rfl

@[simp] theorem trace_cons (R : Refinement step astep) (s : S) (l : L) (ls : List L) :
    R.trace s (l :: ls) = R.emit s l ++ R.trace (step s l) ls := rfl

/-- **The refinement rule.** A run of the system is the run of the abstract one
over the trace. -/
theorem abs_run (R : Refinement step astep) (s : S) (ls : List L) :
    R.abs (run step s ls) = run astep (R.abs s) (R.trace s ls) := by
  induction ls generalizing s with
  | nil => rfl
  | cons l ls ih => rw [run_cons, ih, trace_cons, run_append, R.abs_step]

/-- A condition on abstract steps, pulled back to a condition on the steps of the
system. -/
theorem steps_trace (R : Refinement step astep) {C : S → L → Prop} {C' : A → M → Prop}
    (hC : ∀ s l, C s l → Steps astep C' (R.abs s) (R.emit s l)) {s : S} {ls : List L}
    (h : Steps step C s ls) : Steps astep C' (R.abs s) (R.trace s ls) := by
  induction ls generalizing s with
  | nil => trivial
  | cons l ls ih =>
    rw [trace_cons, steps_append, ← R.abs_step]
    exact ⟨hC s l h.1, ih h.2⟩

/-- The same where the two conditions say the same. -/
theorem steps_trace_iff (R : Refinement step astep) {C : S → L → Prop} {C' : A → M → Prop}
    (hC : ∀ s l, C s l ↔ Steps astep C' (R.abs s) (R.emit s l)) (s : S) (ls : List L) :
    Steps step C s ls ↔ Steps astep C' (R.abs s) (R.trace s ls) := by
  induction ls generalizing s with
  | nil => exact Iff.rfl
  | cons l ls ih =>
    rw [steps_cons, trace_cons, steps_append, ← R.abs_step, ih, hC]

/-- Where steps emit one abstract step at most, the states of a run are, abstractly, the
states of its trace. -/
theorem forall_prefix_trace_iff (R : Refinement step astep)
    (h1 : ∀ s l, (R.emit s l).length ≤ 1) {P : A → Prop} (s : S) (ls : List L) :
    (∀ pre, pre <+: ls → P (R.abs (run step s pre))) ↔
      ∀ pre, pre <+: R.trace s ls → P (run astep (R.abs s) pre) := by
  constructor
  · rintro h pre ⟨post, hpost⟩
    obtain ⟨ls₁, ls₂, rfl, hpre, -⟩ := emitted_split h1 hpost.symm
    have hP := h ls₁ (List.prefix_append _ _)
    rw [R.abs_run] at hP
    change P (run astep (R.abs s) (emitted step R.emit s ls₁)) at hP
    rwa [hpre] at hP
  · rintro h pre ⟨post, rfl⟩
    rw [R.abs_run]
    refine h _ ⟨R.trace (run step s pre) post, ?_⟩
    exact (emitted_append _ s pre post).symm

end Refinement

end Runs
