/-
Registries: one entry for each key, and a new entry replaces the old one.

What a registry holds is decided by the entries made so far: the value of the last
one with the key (`fill_eq_some_iff`). Whoever made an earlier entry is not told that
it is gone.
-/
import Mathlib.Data.List.Basic
import Mathlib.Data.List.Induction
import Mathlib.Logic.Function.Basic

set_option autoImplicit false

namespace Registry

variable {κ ν : Type*} [DecidableEq κ]

/-- The registry `f` after some more entries, oldest first. -/
def fill (f : κ → Option ν) (entries : List (κ × ν)) : κ → Option ν :=
  entries.foldl (fun f e => Function.update f e.1 (some e.2)) f

@[simp] theorem fill_nil (f : κ → Option ν) : fill f [] = f := rfl

theorem fill_append (f : κ → Option ν) (entries entries' : List (κ × ν)) :
    fill f (entries ++ entries') = fill (fill f entries) entries' := List.foldl_append

theorem fill_concat (f : κ → Option ν) (entries : List (κ × ν)) (e : κ × ν) :
    fill f (entries ++ [e]) = Function.update (fill f entries) e.1 (some e.2) := by
  rw [fill_append]
  rfl

omit [DecidableEq κ] in
/-- An entry is the last one or before the last one. -/
theorem concat_eq_split {entries pre post : List (κ × ν)} {e e' : κ × ν}
    (h : entries ++ [e] = pre ++ e' :: post) :
    (pre = entries ∧ e' = e ∧ post = []) ∨
      ∃ post', post = post' ++ [e] ∧ entries = pre ++ e' :: post' := by
  rcases List.eq_nil_or_concat post with rfl | ⟨post', last, rfl⟩
  · obtain ⟨hpre, he⟩ := List.append_inj' h rfl
    exact Or.inl ⟨hpre.symm, (List.cons.inj he).1.symm, rfl⟩
  · rw [List.concat_eq_append, ← List.cons_append, ← List.append_assoc] at h
    obtain ⟨hpre, he⟩ := List.append_inj' h rfl
    rw [List.concat_eq_append, (List.cons.inj he).1]
    exact Or.inr ⟨post', rfl, hpre⟩

/-- **The last entry decides.** A registry that was empty holds `v` for `k` exactly when
`v` was entered for `k`, and nothing else since. -/
theorem fill_eq_some_iff (entries : List (κ × ν)) (k : κ) (v : ν) :
    fill (fun _ => none) entries k = some v ↔
      ∃ pre post, entries = pre ++ (k, v) :: post ∧ ∀ e ∈ post, e.1 = k → e.2 = v := by
  induction entries using List.reverseRecOn with
  | nil => simp
  | append_singleton entries e ih =>
    rw [fill_concat]
    by_cases hk : e.1 = k
    · -- the entry is for the key: it is the last one
      subst hk
      rw [Function.update_self, Option.some.injEq]
      constructor
      · rintro rfl
        exact ⟨entries, [], rfl, by simp⟩
      · rintro ⟨pre, post, heq, hpost⟩
        rcases concat_eq_split heq with ⟨-, he, -⟩ | ⟨post', rfl, -⟩
        · rw [← he]
        · exact hpost e (by simp) rfl
    · rw [Function.update_of_ne (Ne.symm hk), ih]
      constructor
      · rintro ⟨pre, post, rfl, hpost⟩
        refine ⟨pre, post ++ [e], by rw [List.append_assoc, List.cons_append], ?_⟩
        intro e' he' hkey
        rcases List.mem_append.mp he' with hin | hin
        · exact hpost e' hin hkey
        · rw [List.mem_singleton.mp hin] at hkey
          exact absurd hkey hk
      · rintro ⟨pre, post, heq, hpost⟩
        rcases concat_eq_split heq with ⟨-, he, -⟩ | ⟨post', rfl, hinit⟩
        · rw [← he] at hk
          exact absurd rfl hk
        · exact ⟨pre, post', hinit, fun e₁ h₁ => hpost e₁ (List.mem_append_left _ h₁)⟩

end Registry
