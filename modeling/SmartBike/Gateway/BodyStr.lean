/-
`bodyStr` of `adn.js`: where the bodies of responses are put together.

There is one string for each operation, not one for each request. A request empties it, every
part of a response that comes in is added to it, and the end of a response hands it to the
callback. So what a callback gets are all parts since the string was last emptied, whichever
responses they are of. It is the body of its own response exactly if that has not been disturbed
(`handed_iff`); it always is if no request is made while another one is under way
(`handed_alone`). The timer of `app.js` does not wait: it asks for the AE once a second until
there is an answer, and reads its identifier from what it is handed.
-/
import SmartBike.Gateway.Tas

set_option autoImplicit false

open Runs

namespace SmartBike.Gateway

/-- An event of one of the operations, with the number of the request. -/
inductive AdnEvent where
  | request (i : ℕ)
  -- `res.on('data')`
  | data (i : ℕ) (chunk : Text)
  -- `res.on('end')`
  | finish (i : ℕ)
  deriving DecidableEq, Repr

/-- The string of the operation, and what the callbacks have been handed, oldest first. -/
structure BodyStr where
  bodyStr : Text
  handed : List (ℕ × Text)
  deriving DecidableEq, Repr

namespace BodyStr

def init : BodyStr := ⟨[], []⟩

-- `crtct`, `delsub` and `crtsub` empty the string behind the callback as well
variable (clears : Bool)

def step (s : BodyStr) : AdnEvent → BodyStr
  | .request _ => { s with bodyStr := [] }
  | .data _ chunk => { s with bodyStr := s.bodyStr ++ chunk }
  | .finish i => ⟨if clears then [] else s.bodyStr, s.handed ++ [(i, s.bodyStr)]⟩

/-! ## The parts in the string -/

/-- The event empties the string. -/
def resets : AdnEvent → Bool
  | .request _ => true
  | .data .. => false
  | .finish _ => clears

/-- The part of a response that comes in, with the number of its request. -/
def part : AdnEvent → Option (ℕ × Text)
  | .data i chunk => some (i, chunk)
  | _ => none

/-- The parts since the string was last emptied. -/
def parts (es : List AdnEvent) : List (ℕ × Text) :=
  run (fun ps e => if resets clears e then [] else ps ++ (part e).toList) [] es

/-- The parts of the response to a request. -/
def own (i : ℕ) (es : List AdnEvent) : List Text :=
  (es.filterMap part).filterMap fun p => if p.1 = i then some p.2 else none

theorem own_append (i : ℕ) (es es' : List AdnEvent) : own i (es ++ es') = own i es ++ own i es' := by
  rw [own, own, own, List.filterMap_append, List.filterMap_append]

theorem parts_concat (es : List AdnEvent) (e : AdnEvent) :
    parts clears (es ++ [e])
      = if resets clears e then [] else parts clears es ++ (part e).toList := by
  rw [parts, run_concat]
  rfl

/-- **What is in the string.** -/
theorem bodyStr_eq (es : List AdnEvent) :
    (run (step clears) init es).bodyStr = ((parts clears es).map Prod.snd).flatten := by
  induction es using List.reverseRecOn with
  | nil => rfl
  | append_singleton es e ih =>
    rw [run_concat, parts_concat]
    cases e with
    | request i => rfl
    | data i chunk =>
      have hkeeps : resets clears (.data i chunk) = false := rfl
      rw [hkeeps, if_neg Bool.false_ne_true, List.map_append, List.flatten_append, ← ih]
      simp [step, part]
    | finish i =>
      cases clears with
      | true => rfl
      | false =>
        have hkeeps : resets false (.finish i) = false := rfl
        rw [hkeeps, if_neg Bool.false_ne_true]
        simpa [step, part] using ih

/-- Without an event that empties it the string keeps what is in it. -/
theorem parts_append {es es' : List AdnEvent} (h : ∀ e ∈ es', resets clears e = false) :
    parts clears (es ++ es') = parts clears es ++ es'.filterMap part := by
  induction es' using List.reverseRecOn with
  | nil => simp
  | append_singleton es' e ih =>
    have he : resets clears e = false := h e (by simp)
    rw [← List.append_assoc, parts_concat, he, if_neg Bool.false_ne_true,
      ih fun e' he' => h e' (by simp [he']), List.filterMap_append, List.append_assoc]
    cases hpart : part e with
    | none => simp [hpart]
    | some p => simp [hpart]

/-- A run up to the last event that empties the string, and what comes behind it. -/
theorem exists_last_reset (es : List AdnEvent) :
    ∃ pre post, es = pre ++ post ∧ (∀ e ∈ pre.getLast?, resets clears e = true) ∧
      ∀ e ∈ post, resets clears e = false := by
  induction es using List.reverseRecOn with
  | nil => exact ⟨[], [], rfl, by simp, by simp⟩
  | append_singleton es e ih =>
    obtain ⟨pre, post, rfl, hpre, hpost⟩ := ih
    by_cases he : resets clears e = true
    · exact ⟨pre ++ post ++ [e], [], by simp, by simpa using he, by simp⟩
    · refine ⟨pre, post ++ [e], by simp, hpre, ?_⟩
      intro e' he'
      rcases List.mem_append.mp he' with he' | he'
      · exact hpost e' he'
      · rw [List.mem_singleton.mp he']
        simpa using he

theorem parts_of_reset {pre : List AdnEvent} (h : ∀ e ∈ pre.getLast?, resets clears e = true) :
    parts clears pre = [] := by
  rcases List.eq_nil_or_concat pre with rfl | ⟨pre', e, rfl⟩
  · rfl
  · rw [List.concat_eq_append] at h ⊢
    have he := h e (by simp)
    rw [parts_concat, if_pos he]

/-! ## Whose parts they are -/

/-- No part of the response to `i` had come when the string was last emptied, and since then no
part of another one has. -/
def Undisturbed (i : ℕ) (es : List AdnEvent) : Prop :=
  ∃ pre post, es = pre ++ post ∧ (∀ e ∈ pre.getLast?, resets clears e = true) ∧ own i pre = [] ∧
    ∀ e ∈ post, resets clears e = false ∧ ∀ p ∈ part e, p.1 = i

theorem own_of_all {i : ℕ} {es : List AdnEvent} (h : ∀ e ∈ es, ∀ p ∈ part e, p.1 = i) :
    es.filterMap part = (own i es).map (Prod.mk i) := by
  induction es with
  | nil => rfl
  | cons e es ih =>
    have hrest := ih fun e' he' => h e' (List.mem_cons_of_mem _ he')
    have hown : own i (e :: es) = own i [e] ++ own i es := own_append i [e] es
    rw [hown, List.map_append, ← hrest]
    cases hpart : part e with
    | none => simp [own, hpart]
    | some p =>
      obtain ⟨j, chunk⟩ := p
      obtain rfl : j = i := h e List.mem_cons_self _ hpart
      simp [own, hpart]

/-- **Exactly which parts a callback is handed.** -/
theorem parts_eq_iff (i : ℕ) (es : List AdnEvent) :
    parts clears es = (own i es).map (Prod.mk i) ↔ Undisturbed clears i es := by
  constructor
  · intro h
    obtain ⟨pre, post, rfl, hpre, hpost⟩ := exists_last_reset clears es
    rw [parts_append clears hpost, parts_of_reset clears hpre, List.nil_append] at h
    have hall : ∀ e ∈ post, ∀ p ∈ part e, p.1 = i := by
      intro e he p hp
      have hmem : p ∈ post.filterMap part := List.mem_filterMap.mpr ⟨e, he, hp⟩
      rw [h] at hmem
      obtain ⟨t, -, rfl⟩ := List.mem_map.mp hmem
      rfl
    have hlength := congrArg List.length h
    rw [own_of_all hall, List.length_map, List.length_map, own_append, List.length_append] at hlength
    have hnone : own i pre = [] := List.eq_nil_of_length_eq_zero (by omega)
    exact ⟨pre, post, rfl, hpre, hnone, fun e he => ⟨hpost e he, hall e he⟩⟩
  · rintro ⟨pre, post, rfl, hpre, hnone, hpost⟩
    rw [parts_append clears fun e he => (hpost e he).1, parts_of_reset clears hpre, own_append, hnone,
      List.nil_append, List.nil_append]
    exact own_of_all fun e he => (hpost e he).2

/-- **What a callback is handed.** In every run, whatever the order of the responses and of their
parts, the end of a response hands over the parts since the string was last emptied. They are
those of this response exactly if none of them had come before, and none of another response has
since. -/
theorem handed_iff (i : ℕ) (es : List AdnEvent) :
    (run (step clears) init (es ++ [.finish i])).handed
        = (run (step clears) init es).handed ++ [(i, ((parts clears es).map Prod.snd).flatten)] ∧
      (parts clears es = (own i es).map (Prod.mk i) ↔ Undisturbed clears i es) := by
  refine ⟨?_, parts_eq_iff clears i es⟩
  rw [run_concat, ← bodyStr_eq]
  rfl

/-- Two requests for the AE, of which the second one has been made before the answer to the first
one is there. -/
example : (run (step false) init [.request 0, .request 1, .data 0 "<ae>0".toList,
    .data 1 "<ae>1".toList, .finish 0, .finish 1]).handed
      = [(0, "<ae>0<ae>1".toList), (1, "<ae>0<ae>1".toList)] := by
  decide

/-! ## One request at a time -/

/-- The number of a request that is made. -/
def requested : AdnEvent → Option ℕ
  | .request i => some i
  | _ => none

/-- No request is made while another one is under way; `i` is the one that is. -/
def Alone : Option ℕ → List AdnEvent → Prop
  | _, [] => True
  | none, .request i :: es => Alone (some i) es
  | some i, .data j _ :: es => j = i ∧ Alone (some i) es
  | some i, .finish j :: es => j = i ∧ Alone none es
  | _, _ => False

theorem own_data_self (i : ℕ) (chunk : Text) (es : List AdnEvent) :
    own i (.data i chunk :: es) = chunk :: own i es := by
  simp [own, part]

theorem own_data_of_ne {i j : ℕ} (h : j ≠ i) (chunk : Text) (es : List AdnEvent) :
    own i (.data j chunk :: es) = own i es := by
  simp [own, part, h]

/-- Nothing comes of a request that is not made. -/
theorem own_of_alone {i : ℕ} {f : Option ℕ} {es : List AdnEvent} (h : Alone f es)
    (hi : i ∉ f.toList ++ es.filterMap requested) : own i es = [] := by
  induction es generalizing f with
  | nil => rfl
  | cons e es ih =>
    cases f with
    | none =>
      cases e with
      | request j => exact ih (f := some j) h hi
      | data | finish => exact h.elim
    | some j =>
      cases e with
      | request => exact h.elim
      | data k chunk =>
        obtain ⟨rfl, h⟩ := h
        have hne : k ≠ i := fun heq => hi (heq ▸ List.mem_cons_self)
        rw [own_data_of_ne hne]
        exact ih h hi
      | finish k =>
        obtain ⟨rfl, h⟩ := h
        exact ih (f := none) h fun hmem => hi (List.mem_cons_of_mem _ hmem)

/-- What is handed over is what had been, the rest of the response under way, or the response to
a later request. -/
theorem handed_of_alone {s : BodyStr} {f : Option ℕ} {es : List AdnEvent} (h : Alone f es)
    (hfresh : (f.toList ++ es.filterMap requested).Nodup) {r : ℕ × Text}
    (hr : r ∈ (run (step clears) s es).handed) :
    r ∈ s.handed ∨ (f = some r.1 ∧ r.2 = s.bodyStr ++ (own r.1 es).flatten) ∨
      (r.1 ∈ es.filterMap requested ∧ r.2 = (own r.1 es).flatten) := by
  induction es generalizing s f with
  | nil => exact Or.inl hr
  | cons e es ih =>
    cases f with
    | none =>
      cases e with
      | request i =>
        rcases ih (s := { s with bodyStr := [] }) (f := some i) h hfresh hr with
          hin | ⟨hi, hbody⟩ | ⟨hmem, hbody⟩
        · exact Or.inl hin
        · obtain rfl : i = r.1 := Option.some.inj hi
          exact Or.inr (Or.inr ⟨List.mem_cons_self, hbody⟩)
        · exact Or.inr (Or.inr ⟨List.mem_cons_of_mem _ hmem, hbody⟩)
      | data | finish => exact h.elim
    | some i =>
      cases e with
      | request => exact h.elim
      | data j chunk =>
        obtain ⟨rfl, h⟩ := h
        rcases ih (s := { s with bodyStr := s.bodyStr ++ chunk }) (f := some j) h hfresh hr with
          hin | ⟨hj, hbody⟩ | ⟨hmem, hbody⟩
        · exact Or.inl hin
        · refine Or.inr (Or.inl ⟨hj, ?_⟩)
          obtain rfl : j = r.1 := Option.some.inj hj
          rw [own_data_self, List.flatten_cons, ← List.append_assoc]
          exact hbody
        · have hne : j ≠ r.1 := by
            rintro rfl
            exact (List.nodup_cons.mp hfresh).1 hmem
          refine Or.inr (Or.inr ⟨hmem, ?_⟩)
          rw [own_data_of_ne hne]
          exact hbody
      | finish j =>
        obtain ⟨rfl, h⟩ := h
        obtain ⟨hnew, hrest⟩ := List.nodup_cons.mp hfresh
        rcases ih (s := s.step clears (.finish j)) (f := none) h hrest hr with
          hin | ⟨hnone, -⟩ | hlater
        · rcases List.mem_append.mp hin with hin | hin
          · exact Or.inl hin
          · obtain rfl := List.mem_singleton.mp hin
            refine Or.inr (Or.inl ⟨rfl, ?_⟩)
            have hown : own j es = [] := own_of_alone (f := none) h hnew
            change s.bodyStr = s.bodyStr ++ (own j es).flatten
            rw [hown, List.flatten_nil, List.append_nil]
        · exact absurd hnone (by simp)
        · exact Or.inr (Or.inr hlater)

/-- **One request at a time.** In every run in which no request of the operation is made while
another one is under way, each callback is handed the body of its own response, in however many
parts it has come. -/
theorem handed_alone {es : List AdnEvent} (h : Alone none es)
    (hfresh : (es.filterMap requested).Nodup) {r : ℕ × Text}
    (hr : r ∈ (run (step clears) init es).handed) : r.2 = (own r.1 es).flatten := by
  rcases handed_of_alone clears h hfresh hr with hin | ⟨hnone, -⟩ | ⟨-, hbody⟩
  · exact absurd hin List.not_mem_nil
  · exact absurd hnone (by simp)
  · exact hbody

/-- The same two requests, one after the other. -/
theorem handed_alone_in_turn :
    "<ae>1</ae>".toList = (own 1 [.request 0, .data 0 "<ae>0</ae>".toList, .finish 0, .request 1,
      .data 1 "<ae>".toList, .data 1 "1</ae>".toList, .finish 1]).flatten :=
  handed_alone false (r := (1, "<ae>1</ae>".toList))
    (show Alone none [.request 0, .data 0 "<ae>0</ae>".toList, .finish 0, .request 1,
      .data 1 "<ae>".toList, .data 1 "1</ae>".toList, .finish 1] from
      ⟨rfl, rfl, rfl, rfl, rfl, trivial⟩) (by decide) (by decide)

end BodyStr

end SmartBike.Gateway
