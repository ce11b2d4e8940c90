/-
The first occurrence of a pattern in a list.

`First t s pre rest` says it with the list taken apart: `s` is `pre`, the pattern and `rest`,
and the pattern stands nowhere before. `firstIdx?` computes where that is. Two patterns whose
occurrences cannot overlap divide a list in the order in which they stand in it
(`First.drop`, `le_of_lt`).
-/
import Mathlib.Data.List.Infix

set_option autoImplicit false

namespace Occurrence

variable {α : Type*}

/-- `t` stands in `s` between `pre` and `rest`, and nowhere before. -/
structure First (t s pre rest : List α) : Prop where
  split : s = pre ++ (t ++ rest)
  first : ∀ pre' rest', s = pre' ++ (t ++ rest') → pre.length ≤ pre'.length

namespace First

variable {t s pre rest : List α}

theorem unique (h : First t s pre rest) {pre' rest' : List α} (h' : First t s pre' rest') :
    pre = pre' ∧ rest = rest' := by
  have hlen : pre.length = pre'.length :=
    le_antisymm (h.first pre' rest' h'.split) (h'.first pre rest h.split)
  obtain ⟨rfl, htail⟩ := List.append_inj (h.split.symm.trans h'.split) hlen
  exact ⟨rfl, List.append_cancel_left htail⟩

theorem occurs (h : First t s pre rest) : t <:+: s :=
  ⟨pre, rest, by rw [h.split, List.append_assoc]⟩

/-- An occurrence behind `u` is an occurrence in what follows it. -/
theorem drop {u v : List α} (h : First t (u ++ v) pre rest) (hle : u.length ≤ pre.length) :
    ∃ text, pre = u ++ text ∧ First t v text rest := by
  obtain ⟨text, rfl, hv⟩ : ∃ text, pre = u ++ text ∧ v = text ++ (t ++ rest) := by
    rcases List.append_eq_append_iff.mp h.split with ⟨text, hpre, hv⟩ | ⟨text, hu, hrest⟩
    · exact ⟨text, hpre, hv⟩
    · have hnil : text = [] := by
        rw [hu, List.length_append] at hle
        exact List.eq_nil_of_length_eq_zero (by omega)
      rw [hnil, List.append_nil] at hu
      rw [hnil, List.nil_append] at hrest
      exact ⟨[], by rw [hu, List.append_nil], hrest.symm⟩
  refine ⟨text, rfl, hv, fun pre' rest' hv' => ?_⟩
  have := h.first (u ++ pre') rest' (by rw [hv', List.append_assoc])
  rw [List.length_append, List.length_append] at this
  omega

end First

/-- Where a pattern begins with something that is in another one only as its head, it does
not begin inside the other one. -/
theorem le_of_lt {s t pre rest pre' rest' : List α} {c : α} (h : s = pre ++ (t ++ rest))
    (h' : s = pre' ++ (c :: rest')) (hc : c ∉ t.tail) (hlt : pre.length < pre'.length) :
    pre.length + t.length ≤ pre'.length := by
  by_contra hinside
  have hat : s[pre'.length]? = some c := by
    rw [h', List.getElem?_append_right le_rfl, Nat.sub_self]
    rfl
  rw [h, List.getElem?_append_right hlt.le, List.getElem?_append_left (by omega)] at hat
  obtain ⟨k, hk⟩ : ∃ k, pre'.length - pre.length = k + 1 := ⟨pre'.length - pre.length - 1, by omega⟩
  rw [hk, ← List.getElem?_tail] at hat
  exact hc (List.mem_of_getElem? hat)

/-- A pattern that stands in `pre` nowhere, and has its head only at its beginning, stands behind
`pre` for the first time. -/
theorem first_of_not_infix {c : α} {t pre : List α} (hc : c ∉ t) (hpre : ¬ c :: t <:+: pre)
    (rest : List α) : First (c :: t) (pre ++ (c :: t ++ rest)) pre rest where
  split := rfl
  first pre' rest' h := by
    by_contra hlt
    have hle := le_of_lt h (by rw [List.cons_append]) hc (not_le.mp hlt)
    obtain ⟨text, hpre', -⟩ | ⟨text, hpre', htext⟩ := List.append_eq_append_iff.mp h
    · rw [hpre', List.length_append] at hlt
      omega
    · have hlen : (c :: t).length ≤ text.length := by
        rw [hpre', List.length_append] at hle
        omega
      have hwhole : c :: t <+: text ++ (c :: t ++ rest) := ⟨rest', htext⟩
      obtain ⟨text', htext'⟩ :=
        List.prefix_of_prefix_length_le hwhole (List.prefix_append text _) hlen
      exact hpre ⟨pre', text', by rw [hpre', ← htext', List.append_assoc]⟩

/-! ## Where it is -/

variable [BEq α] [LawfulBEq α]

/-- The place of the first occurrence. -/
def firstIdx? (t s : List α) : Option ℕ := s.tails.findIdx? fun rest => t.isPrefixOf rest

theorem firstIdx?_eq_some {t s : List α} {i : ℕ} (h : firstIdx? t s = some i) :
    ∃ pre rest, First t s pre rest ∧ pre.length = i := by
  obtain ⟨hi, hpre, hfirst⟩ := List.findIdx?_eq_some_iff_getElem.mp h
  have hle : i ≤ s.length := by
    rw [List.length_tails] at hi
    omega
  rw [List.getElem_tails, List.isPrefixOf_iff_prefix] at hpre
  obtain ⟨rest, hrest⟩ := hpre
  have hlen : (s.take i).length = i := List.length_take_of_le hle
  refine ⟨s.take i, rest, ⟨?_, fun pre' rest' h' => ?_⟩, hlen⟩
  · rw [hrest, List.take_append_drop]
  · rw [hlen]
    by_contra hlt
    refine hfirst pre'.length (by omega) ?_
    rw [List.getElem_tails, List.isPrefixOf_iff_prefix]
    exact ⟨rest', by rw [h', List.drop_left]⟩

theorem firstIdx?_eq_none_iff (t s : List α) : firstIdx? t s = none ↔ ¬ t <:+: s := by
  unfold firstIdx?
  rw [List.findIdx?_eq_none_iff]
  constructor
  · rintro h ⟨pre, rest, hs⟩
    have hmem : t ++ rest ∈ s.tails := by
      rw [List.mem_tails]
      exact ⟨pre, by rw [← List.append_assoc, hs]⟩
    have := h _ hmem
    rw [List.isPrefixOf_iff_prefix.mpr (List.prefix_append t rest)] at this
    exact Bool.noConfusion this
  · intro h rest hmem
    by_contra hpre
    obtain ⟨rest', hrest⟩ := List.isPrefixOf_iff_prefix.mp (Bool.of_not_eq_false hpre)
    obtain ⟨pre, hs⟩ := (List.mem_tails ..).mp hmem
    exact h ⟨pre, rest', by rw [List.append_assoc, hrest, hs]⟩

end Occurrence
