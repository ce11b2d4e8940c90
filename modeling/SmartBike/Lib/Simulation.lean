/-
Simulations that hold under a condition on the steps, and their converse.

`Refinement` of `Run.lean` is for a system each of whose steps is a run of an abstract one.
Here a relation between the states of the two is kept only by the steps that meet a condition.
The two systems are run in tandem, so the rules of `Run.lean` for one system apply. For the
converse, the system takes steps that are nothing to the abstract one until it can take the
next step of it; a rank says that this comes to an end.
-/
import SmartBike.Lib.Run

set_option autoImplicit false

namespace Runs

variable {S A L M : Type*} {step : S → L → S} {astep : A → M → A} {emit : S → L → List M}
variable {R : S → A → Prop} {C : S → L → Prop}

/-- The system, and the abstract one beside it. -/
def tandem (step : S → L → S) (astep : A → M → A) (emit : S → L → List M) (p : S × A) (l : L) :
    S × A :=
  (step p.1 l, run astep p.2 (emit p.1 l))

theorem run_tandem (p : S × A) (ls : List L) :
    run (tandem step astep emit) p ls
      = (run step p.1 ls, run astep p.2 (emitted step emit p.1 ls)) := by
  induction ls generalizing p with
  | nil => rfl
  | cons l ls ih =>
    rw [run_cons, ih, emitted_cons, run_append]
    rfl

theorem steps_tandem_iff (p : S × A) (ls : List L) :
    Steps (tandem step astep emit) (fun p l => C p.1 l) p ls ↔ Steps step C p.1 ls := by
  induction ls generalizing p with
  | nil => exact Iff.rfl
  | cons l ls ih =>
    rw [steps_cons, steps_cons, ih]
    exact Iff.rfl

/-- **The simulation rule.** A relation that the steps that meet `C` keep holds at the end of a
run of such steps. -/
theorem Steps.simulated {s : S} {ls : List L} (h : Steps step C s ls)
    (hstep : ∀ s a l, R s a → C s l → R (step s l) (run astep a (emit s l))) {a : A} (h0 : R s a) :
    R (run step s ls) (run astep a (emitted step emit s ls)) := by
  have htandem : Steps (tandem step astep emit) (fun p l => C p.1 l) (s, a) ls :=
    (steps_tandem_iff (s, a) ls).mpr h
  have hkept : ∀ (p : S × A) l, R p.1 p.2 → C p.1 l →
      R (tandem step astep emit p l).1 (tandem step astep emit p l).2 :=
    fun p l hR hC => hstep p.1 p.2 l hR hC
  have hrun : (fun p : S × A => R p.1 p.2) (run (tandem step astep emit) (s, a) ls) :=
    htandem.invariant hkept h0
  rwa [run_tandem] at hrun

/-- **The exactness rule for simulations.** If the steps that meet `C` keep the relation and
the others break it at once, it holds all along a run exactly if all its steps meet `C`. -/
theorem simulated_iff
    (hgood : ∀ s a l, R s a → C s l → R (step s l) (run astep a (emit s l)))
    (hbad : ∀ s a l, R s a → ¬ C s l → ¬ R (step s l) (run astep a (emit s l)))
    {s : S} {a : A} (h0 : R s a) (ls : List L) :
    (∀ pre, pre <+: ls → R (run step s pre) (run astep a (emitted step emit s pre))) ↔
      Steps step C s ls := by
  have hkept : ∀ (p : S × A) l, R p.1 p.2 → C p.1 l →
      R (tandem step astep emit p l).1 (tandem step astep emit p l).2 :=
    fun p l hR hC => hgood p.1 p.2 l hR hC
  have hbroken : ∀ (p : S × A) l, R p.1 p.2 → ¬ C p.1 l →
      ¬ R (tandem step astep emit p l).1 (tandem step astep emit p l).2 :=
    fun p l hR hC => hbad p.1 p.2 l hR hC
  have hexact : (∀ pre, pre <+: ls →
      (fun p : S × A => R p.1 p.2) (run (tandem step astep emit) (s, a) pre)) ↔
        Steps (tandem step astep emit) (fun p l => C p.1 l) (s, a) ls :=
    forall_prefix_iff_steps hkept (fun _ h => h) hbroken h0 ls
  rw [steps_tandem_iff] at hexact
  simpa only [run_tandem] using hexact

/-- The abstract system that does nothing but keep what it is given. -/
theorem run_collect {O : Type*} (os os' : List O) :
    run (fun os o => os ++ [o]) os os' = os ++ os' := by
  induction os' generalizing os with
  | nil => exact (List.append_nil os).symm
  | cons o os' ih =>
    rw [run_cons, ih]
    exact (List.append_cons os o os').symm

/-! ## The converse -/

theorem steps_and {D : S → L → Prop} {s : S} {ls : List L} :
    Steps step (fun s l => C s l ∧ D s l) s ls ↔ Steps step C s ls ∧ Steps step D s ls := by
  induction ls generalizing s with
  | nil => exact iff_of_true trivial ⟨trivial, trivial⟩
  | cons l ls ih =>
    rw [steps_cons, steps_cons, steps_cons, ih]
    exact and_and_and_comm

/-- **Silent steps come to an end.** -/
theorem exists_silent {Inv P : S → Prop} {silent : S → L → Prop} (rank : S → ℕ)
    (hstep : ∀ s, Inv s → ¬ P s → ∃ l, silent s l ∧ Inv (step s l) ∧ rank (step s l) < rank s)
    {s : S} (h : Inv s) :
    ∃ ls, Steps step silent s ls ∧ Inv (run step s ls) ∧ P (run step s ls) := by
  induction hn : rank s using Nat.strong_induction_on generalizing s with
  | _ n ih =>
    by_cases hP : P s
    · exact ⟨[], trivial, h, hP⟩
    · obtain ⟨l, hl, hInv, hlt⟩ := hstep s h hP
      obtain ⟨ls, hls, hend⟩ := ih (rank (step s l)) (hn ▸ hlt) hInv rfl
      exact ⟨l :: ls, ⟨hl, hls⟩, hend⟩

/-- **The converse of a simulation.** If the system can follow each step of the abstract one
that meets `D`, it can follow each run of such steps. -/
theorem Steps.followed {D : A → M → Prop} {a : A} {ms : List M} (h : Steps astep D a ms)
    (hstep : ∀ s a l, R s a → C s l → R (step s l) (run astep a (emit s l)))
    (hfollow : ∀ s a m, R s a → D a m → ∃ ls, Steps step C s ls ∧ emitted step emit s ls = [m])
    {s : S} (h0 : R s a) :
    ∃ ls, Steps step C s ls ∧ emitted step emit s ls = ms := by
  induction ms generalizing s a with
  | nil => exact ⟨[], trivial, rfl⟩
  | cons m ms ih =>
    obtain ⟨hD, hrest⟩ := h
    obtain ⟨ls, hls, hm⟩ := hfollow s a m h0 hD
    have hR := hls.simulated hstep h0
    rw [hm] at hR
    obtain ⟨ls', hls', hms⟩ := ih hrest hR
    refine ⟨ls ++ ls', (steps_append s ls ls').mpr ⟨hls, hls'⟩, ?_⟩
    rw [emitted_append, hm, hms]
    rfl

end Runs
