/-
Texts as UTF-16 units.

A character has one unit, or a pair of surrogates. Of the units of a text the text is got back
(`decode_encode`), and as no character begins with a low surrogate, a text stands in the units of
another one only where it stands in that one (`split_encode`): so what is found in the units is
what is found in the text, at another index.
-/
import SmartBike.Lib.Occurrence

set_option autoImplicit false

open Occurrence

namespace Utf16

/-! ## Encoding -/

/-- The units of a character. -/
def units (c : Char) : List ℕ :=
  if c.toNat < 0x10000 then [c.toNat]
  else [0xd800 + (c.toNat - 0x10000) / 0x400, 0xdc00 + (c.toNat - 0x10000) % 0x400]

def encode (s : List Char) : List ℕ := s.flatMap units

def High (n : ℕ) : Prop := 0xd800 ≤ n ∧ n < 0xdc00

def Low (n : ℕ) : Prop := 0xdc00 ≤ n ∧ n < 0xe000

instance : DecidablePred High := fun _ => inferInstanceAs (Decidable (_ ∧ _))

instance : DecidablePred Low := fun _ => inferInstanceAs (Decidable (_ ∧ _))

/-- A unit that is no part of a pair; a surrogate is shown as U+FFFD. -/
def single (n : ℕ) : Char := if High n ∨ Low n then Char.ofNat 0xfffd else Char.ofNat n

def decode : List ℕ → List Char
  | [] => []
  | [n] => [single n]
  | n :: m :: t =>
    if High n ∧ Low m then
      Char.ofNat (0x10000 + (n - 0xd800) * 0x400 + (m - 0xdc00)) :: decode t
    else single n :: decode (m :: t)

/-! ## What is got back -/

theorem toNat_range (c : Char) : c.toNat < 0xd800 ∨ 0xdfff < c.toNat ∧ c.toNat < 0x110000 :=
  c.valid

theorem single_toNat (c : Char) : single c.toNat = c := by
  have hrange := toNat_range c
  have hnot : ¬ (High c.toNat ∨ Low c.toNat) := by
    unfold High Low
    omega
  rw [single, if_neg hnot, Char.ofNat_toNat]

theorem decode_units (c : Char) (t : List ℕ) : decode (units c ++ t) = c :: decode t := by
  have hrange := toNat_range c
  unfold units
  split_ifs with hlt
  · have hnot : ¬ High c.toNat := by
      unfold High
      omega
    cases t with
    | nil =>
      change [single c.toNat] = [c]
      rw [single_toNat]
    | cons m t =>
      have hpair : ¬ (High c.toNat ∧ Low m) := fun h => hnot h.1
      change decode (c.toNat :: m :: t) = c :: decode (m :: t)
      rw [decode, if_neg hpair, single_toNat]
  · have hpair : High (0xd800 + (c.toNat - 0x10000) / 0x400) ∧
        Low (0xdc00 + (c.toNat - 0x10000) % 0x400) := by
      unfold High Low
      omega
    have hsum : 0x10000 + (0xd800 + (c.toNat - 0x10000) / 0x400 - 0xd800) * 0x400 +
        (0xdc00 + (c.toNat - 0x10000) % 0x400 - 0xdc00) = c.toNat := by omega
    change decode (_ :: _ :: t) = c :: decode t
    rw [decode, if_pos hpair, hsum, Char.ofNat_toNat]

theorem encode_cons (c : Char) (s : List Char) : encode (c :: s) = units c ++ encode s :=
  List.flatMap_cons

@[simp] theorem encode_append (s t : List Char) : encode (s ++ t) = encode s ++ encode t :=
  List.flatMap_append

/-- **Nothing is lost.** -/
theorem decode_encode (s : List Char) : decode (encode s) = s := by
  induction s with
  | nil => rfl
  | cons c s ih => rw [encode_cons, decode_units, ih]

theorem units_ne_nil (c : Char) : units c ≠ [] := by
  unfold units
  split_ifs
  · exact List.cons_ne_nil _ _
  · exact List.cons_ne_nil _ _

/-- The units of two texts begin with those of the same character. -/
theorem units_append_inj {c d : Char} {u v : List ℕ} (h : units c ++ u = units d ++ v) :
    c = d ∧ u = v := by
  have hdecode := congrArg decode h
  rw [decode_units, decode_units] at hdecode
  obtain rfl := (List.cons.inj hdecode).1
  exact ⟨rfl, List.append_cancel_left h⟩

theorem length_le_encode (s : List Char) : s.length ≤ (encode s).length := by
  induction s with
  | nil => exact le_rfl
  | cons c s ih =>
    have hpos := List.length_pos_of_ne_nil (units_ne_nil c)
    rw [encode_cons, List.length_append, List.length_cons]
    omega

/-! ## Where a text stands -/

theorem prefix_encode {s t : List Char} {v : List ℕ} (h : encode s = encode t ++ v) :
    ∃ rest, s = t ++ rest ∧ encode rest = v := by
  induction t generalizing s with
  | nil => exact ⟨s, rfl, h⟩
  | cons d t ih =>
    rw [encode_cons, List.append_assoc] at h
    cases s with
    | nil =>
      have hnil : units d = [] := (List.append_eq_nil_iff.mp h.symm).1
      exact absurd hnil (units_ne_nil d)
    | cons c s =>
      rw [encode_cons] at h
      obtain ⟨rfl, htail⟩ := units_append_inj h
      obtain ⟨rest, rfl, hrest⟩ := ih htail
      exact ⟨rest, rfl, hrest⟩

/-- No character begins with a low surrogate. -/
theorem not_low_of_units {c : Char} {n : ℕ} {u : List ℕ} (h : units c = n :: u) : ¬ Low n := by
  have hrange := toNat_range c
  unfold units at h
  unfold Low
  split_ifs at h
  · obtain ⟨rfl, -⟩ := List.cons.inj h
    omega
  · obtain ⟨rfl, -⟩ := List.cons.inj h
    omega

/-- What is left of a character behind its first unit begins with a low surrogate. -/
theorem low_of_units {c : Char} {u v : List ℕ} (h : units c = u ++ v) (hu : u ≠ []) (hv : v ≠ []) :
    ∃ n v', v = n :: v' ∧ Low n := by
  unfold units at h
  split_ifs at h
  · have hlen := congrArg List.length h
    have hu' := List.length_pos_of_ne_nil hu
    have hv' := List.length_pos_of_ne_nil hv
    rw [List.length_append, List.length_singleton] at hlen
    omega
  · obtain ⟨n, u, rfl⟩ := List.exists_cons_of_ne_nil hu
    obtain ⟨m, v, rfl⟩ := List.exists_cons_of_ne_nil hv
    rw [List.cons_append] at h
    obtain ⟨-, htail⟩ := List.cons.inj h
    have hnil : u = [] := by
      have hlen := congrArg List.length htail
      rw [List.length_append, List.length_singleton, List.length_cons] at hlen
      exact List.eq_nil_of_length_eq_zero (by omega)
    rw [hnil] at htail
    obtain ⟨rfl, -⟩ := List.cons.inj htail
    exact ⟨_, v, rfl, by unfold Low; omega⟩

/-- **A text stands in the units where it stands in the text.** -/
theorem split_encode {s t : List Char} {u v : List ℕ} (ht : t ≠ [])
    (h : encode s = u ++ (encode t ++ v)) :
    ∃ pre rest, s = pre ++ (t ++ rest) ∧ encode pre = u ∧ encode rest = v := by
  induction s generalizing u with
  | nil =>
    have hnil : encode t = [] := by
      have htail := (List.append_eq_nil_iff.mp h.symm).2
      exact (List.append_eq_nil_iff.mp htail).1
    have hlen := length_le_encode t
    have hpos := List.length_pos_of_ne_nil ht
    rw [hnil, List.length_nil] at hlen
    omega
  | cons c s ih =>
    by_cases hu : u = []
    · subst hu
      obtain ⟨rest, hs, hrest⟩ := prefix_encode h
      exact ⟨[], rest, hs, rfl, hrest⟩
    · rw [encode_cons] at h
      rcases List.append_eq_append_iff.mp h with ⟨u', rfl, hs⟩ | ⟨u', hunits, hv⟩
      · obtain ⟨pre, rest, rfl, rfl, hrest⟩ := ih hs
        exact ⟨c :: pre, rest, rfl, encode_cons c pre, hrest⟩
      · by_cases hnil : u' = []
        · subst hnil
          rw [List.append_nil] at hunits
          obtain ⟨pre, rest, rfl, hpre, hrest⟩ := ih (u := []) hv.symm
          refine ⟨c :: pre, rest, rfl, ?_, hrest⟩
          rw [encode_cons, hpre, List.append_nil, hunits]
        · -- the text would begin with a low surrogate
          obtain ⟨n, v', rfl, hlow⟩ := low_of_units hunits hu hnil
          obtain ⟨d, t, rfl⟩ := List.exists_cons_of_ne_nil ht
          obtain ⟨m, w, hd⟩ := List.exists_cons_of_ne_nil (units_ne_nil d)
          rw [encode_cons, hd] at hv
          obtain ⟨rfl, -⟩ := List.cons.inj hv
          exact absurd hlow (not_low_of_units hd)

theorem not_infix_encode {s t : List Char} (ht : t ≠ []) (h : ¬ t <:+: s) :
    ¬ encode t <:+: encode s := by
  rintro ⟨u, v, huv⟩
  rw [List.append_assoc] at huv
  obtain ⟨pre, rest, hs, -, -⟩ := split_encode ht huv.symm
  exact h ⟨pre, rest, by rw [hs, List.append_assoc]⟩

theorem length_encode_le {s t : List Char} (h : s <+: t) :
    (encode s).length ≤ (encode t).length := by
  obtain ⟨rest, rfl⟩ := h
  rw [encode_append, List.length_append]
  exact Nat.le_add_right _ _

/-- **So does its first occurrence.** -/
theorem first_encode {s t pre rest : List Char} (ht : t ≠ []) (h : First t s pre rest) :
    First (encode t) (encode s) (encode pre) (encode rest) where
  split := by rw [h.split, encode_append, encode_append]
  first u v huv := by
    obtain ⟨pre', rest', hs, rfl, -⟩ := split_encode ht huv
    apply length_encode_le
    refine @List.prefix_of_prefix_length_le _ _ _ s ?_ ?_ ?_
    · exact ⟨t ++ rest, h.split.symm⟩
    · exact ⟨t ++ rest', hs.symm⟩
    · exact h.first pre' rest' hs

end Utf16
