/-
What the reads of a container make of a response: `getResponseBody` and
`RetrieveRequestCon.run` of `FirstActivity.java`, and the two `run`s of `Navi.java`.

All four take the text between the first `<con>` and the first `</con>`, by two calls of
`indexOf` and one of `substring`, and have nothing but the exception of the latter to tell
them that there is no such text. It is thrown wherever a tag is missing or they stand in the
wrong order, with one exception: without a `<con>` the text is taken to begin at `-1 + 5`,
and if the first `</con>` stands there or later, what lies between is read (`Misread`). The
indices are those of Java, in UTF-16 units.

`s` is a response as `run` has put it together, the lines one behind the other. It has been
decoded from bytes, so it has no surrogate without its other half.
-/
import SmartBike.Lib.Occurrence
import SmartBike.App.FirstActivity
import SmartBike.App.Navi

set_option autoImplicit false

open Runs Occurrence Utf16

namespace SmartBike.App

open Gateway (Text)
open Lights (Side)

namespace ConElement

/-! ## The element -/

/-- `<con>`. -/
def con_start : Text := ['<', 'c', 'o', 'n', '>']

/-- `</con>`. -/
def con_finish : Text := ['<', '/', 'c', 'o', 'n', '>']

/-- `text` stands between the first `<con>` and the first `</con>` after it. -/
def Pair (s text : Text) : Prop :=
  ∃ pre after rest, First con_start s pre after ∧ First con_finish after text rest

/-- The first `</con>` stands before the first `<con>`. -/
def ClosingFirst (s : Text) : Prop :=
  ∃ pre after pre' rest, First con_start s pre after ∧ First con_finish s pre' rest ∧
    pre'.length < pre.length

/-- There is no such pair of tags, or `</con>` comes first. -/
def Rejected (s : Text) : Prop := (¬ ∃ text, Pair s text) ∨ ClosingFirst s

/-- There is no `<con>`, and the index of the first `</con>` is four or more. -/
def Misread (s : Text) : Prop :=
  ¬ con_start <:+: s ∧ ∃ pre rest, First con_finish s pre rest ∧ 4 ≤ (encode pre).length

/-! ## `getResponseBody` -/

theorem indexOf_of_first {t s pre rest : Text} (ht : t ≠ []) (h : First t s pre rest) :
    indexOf s t = (encode pre).length := by
  have h' := first_encode ht h
  have hsome : firstIdx? (encode t) (encode s) ≠ none :=
    fun hnone => (firstIdx?_eq_none_iff _ _).mp hnone h'.occurs
  obtain ⟨i, hi⟩ := Option.ne_none_iff_exists'.mp hsome
  obtain ⟨pre', rest', hfirst, rfl⟩ := firstIdx?_eq_some hi
  have heq : indexOf s t = pre'.length := by
    unfold indexOf
    unfold firstIdx? at hi
    rw [hi]
  rw [heq, (h'.unique hfirst).1]

theorem indexOf_of_not_occurs {t s : Text} (ht : t ≠ []) (h : ¬ t <:+: s) : indexOf s t = -1 := by
  have hnone := (firstIdx?_eq_none_iff _ _).mpr (not_infix_encode ht h)
  unfold firstIdx? at hnone
  unfold indexOf
  rw [hnone]

theorem con_start_ne_nil : con_start ≠ [] := List.cons_ne_nil _ _

theorem con_finish_ne_nil : con_finish ≠ [] := List.cons_ne_nil _ _

/-- The first tags of a response, with their indices in the order of the tags. -/
theorem length_encode_le_of_first {t t' s pre rest pre' rest' : Text} (h : First t s pre rest)
    (h' : First t' s pre' rest') (hle : pre.length ≤ pre'.length) :
    (encode pre).length ≤ (encode pre').length := by
  apply length_encode_le
  refine @List.prefix_of_prefix_length_le _ _ _ s ?_ ?_ ?_
  · exact ⟨t ++ rest, h.split.symm⟩
  · exact ⟨t' ++ rest', h'.split.symm⟩
  · exact hle

theorem exists_first {t s : Text} (h : t <:+: s) : ∃ pre rest, First t s pre rest := by
  have hsome : firstIdx? t s ≠ none := fun hnone => (firstIdx?_eq_none_iff t s).mp hnone h
  obtain ⟨i, hi⟩ := Option.ne_none_iff_exists'.mp hsome
  obtain ⟨pre, rest, hfirst, -⟩ := firstIdx?_eq_some hi
  exact ⟨pre, rest, hfirst⟩

/-- The two tags do not stand in the same place, and do not overlap. -/
theorem tags_apart {s pre after pre' rest : Text} (h : First con_start s pre after)
    (h' : First con_finish s pre' rest) :
    pre'.length < pre.length ∨ pre.length + con_start.length ≤ pre'.length := by
  rcases lt_trichotomy pre'.length pre.length with hlt | heq | hlt
  · exact Or.inl hlt
  · obtain ⟨-, htags⟩ := List.append_inj (h'.split.symm.trans h.split) heq
    exact absurd htags (by simp [con_start, con_finish])
  · exact Or.inr (le_of_lt h.split h'.split (by decide) hlt)

/-- With the tags in the right order, what is between them is the pair's text. -/
theorem pair_of_le {s pre after pre' rest : Text} (h : First con_start s pre after)
    (h' : First con_finish s pre' rest) (hle : pre.length + con_start.length ≤ pre'.length) :
    ∃ text, Pair s text ∧ pre' = pre ++ con_start ++ text := by
  have hs : s = (pre ++ con_start) ++ after := by rw [h.split, List.append_assoc]
  rw [hs] at h'
  obtain ⟨text, hpre, hafter⟩ := h'.drop (by rw [List.length_append]; exact hle)
  exact ⟨text, ⟨pre, after, rest, h, hafter⟩, hpre⟩

/-- The first tags of a response that is not rejected stand in the right order. -/
theorem exists_pair_of_not_rejected {s : Text} (h : ¬ Rejected s) :
    ∃ pre after pre' rest, First con_start s pre after ∧ First con_finish s pre' rest ∧
      pre.length + con_start.length ≤ pre'.length := by
  unfold Rejected at h
  rw [not_or, not_not] at h
  obtain ⟨⟨text, pre, after, rest, hstart, hafter⟩, hnot⟩ := h
  have hocc : con_finish <:+: s := by
    obtain ⟨u, v, huv⟩ := hafter.occurs
    refine ⟨pre ++ con_start ++ u, v, ?_⟩
    rw [hstart.split, ← huv]
    simp only [List.append_assoc]
  obtain ⟨pre', rest', hfinish⟩ := exists_first hocc
  refine ⟨pre, after, pre', rest', hstart, hfinish, ?_⟩
  rcases tags_apart hstart hfinish with hlt | hle
  · exact absurd ⟨pre, after, pre', rest', hstart, hfinish, hlt⟩ hnot
  · exact hle

theorem substring_of_le {s u v w : Text} (h : s = u ++ v ++ w) :
    substring s (encode u).length (encode (u ++ v)).length = some v := by
  have hs : encode s = encode u ++ encode v ++ encode w := by
    rw [h, encode_append, encode_append]
  have hlen : (encode (u ++ v)).length ≤ (encode s).length :=
    length_encode_le ⟨w, h.symm⟩
  have hle : (encode u).length ≤ (encode (u ++ v)).length :=
    length_encode_le (List.prefix_append u v)
  unfold substring
  rw [if_pos ⟨by omega, by omega, by omega⟩, Int.toNat_natCast, Int.toNat_natCast, hs,
    encode_append, List.take_left, List.drop_left, decode_encode]

theorem substring_of_lt {s : Text} {first last : ℤ} (h : last < first) :
    substring s first last = none := by
  unfold substring
  exact if_neg fun hle => by omega

/-- What `getResponseBody` reads, by where the tags are. -/
theorem getResponseBody_eq (s : Text) :
    getResponseBody s = substring s (indexOf s con_start + 5) (indexOf s con_finish) := rfl

/-- **A response that is not rejected** is read as the claimed pair's text. -/
theorem getResponseBody_of_not_rejected {s : Text} (h : ¬ Rejected s) :
    ∃ text, Pair s text ∧ getResponseBody s = some text := by
  obtain ⟨pre, after, pre', rest, hstart, hfinish, hle⟩ := exists_pair_of_not_rejected h
  obtain ⟨text, hpair, rfl⟩ := pair_of_le hstart hfinish hle
  have hfirst : indexOf s con_start + 5 = (encode (pre ++ con_start)).length := by
    rw [indexOf_of_first con_start_ne_nil hstart, encode_append, List.length_append]
    rfl
  refine ⟨text, hpair, ?_⟩
  rw [getResponseBody_eq, hfirst, indexOf_of_first con_finish_ne_nil hfinish]
  exact substring_of_le hfinish.split

/-- **A rejected one** makes `substring` throw, unless it is misread. -/
theorem getResponseBody_of_rejected {s : Text} (h : Rejected s) (hnot : ¬ Misread s) :
    getResponseBody s = none := by
  rw [getResponseBody_eq]
  by_cases hfinish : con_finish <:+: s
  · obtain ⟨pre', rest, hfinish⟩ := exists_first hfinish
    by_cases hstart : con_start <:+: s
    · obtain ⟨pre, after, hstart⟩ := exists_first hstart
      rw [indexOf_of_first con_start_ne_nil hstart, indexOf_of_first con_finish_ne_nil hfinish]
      rcases tags_apart hstart hfinish with hlt | hle
      · have hindex := length_encode_le_of_first hfinish hstart hlt.le
        exact substring_of_lt (by omega)
      · obtain ⟨text, hpair, -⟩ := pair_of_le hstart hfinish hle
        rcases h with h | ⟨pre₁, after₁, pre₂, rest₂, h₁, h₂, hlt⟩
        · exact absurd ⟨text, hpair⟩ h
        · rw [(h₁.unique hstart).1, (h₂.unique hfinish).1] at hlt
          omega
    · have hshort : (encode pre').length < 4 := by
        by_contra hlong
        exact hnot ⟨hstart, pre', rest, hfinish, by omega⟩
      rw [indexOf_of_not_occurs con_start_ne_nil hstart, indexOf_of_first con_finish_ne_nil hfinish]
      exact substring_of_lt (by omega)
  · have hle : -1 ≤ indexOf s con_start := by
      unfold indexOf
      split
      · omega
      · exact le_rfl
    rw [indexOf_of_not_occurs con_finish_ne_nil hfinish]
    exact substring_of_lt (by omega)

/-- **A misread one** is read from the fifth unit on. -/
theorem getResponseBody_of_misread {s : Text} (h : Misread s) :
    ∃ text, getResponseBody s = some text := by
  obtain ⟨hstart, pre, rest, hfinish, hle⟩ := h
  have hlen : (encode pre).length ≤ (encode s).length :=
    length_encode_le ⟨con_finish ++ rest, hfinish.split.symm⟩
  refine ⟨decode (((encode s).take (encode pre).length).drop 4), ?_⟩
  rw [getResponseBody_eq, indexOf_of_not_occurs con_start_ne_nil hstart,
    indexOf_of_first con_finish_ne_nil hfinish]
  unfold substring
  rw [if_pos ⟨by omega, by omega, by omega⟩, Int.toNat_natCast]
  rfl

theorem rejected_of_misread {s : Text} (h : Misread s) : Rejected s := by
  refine Or.inl ?_
  rintro ⟨text, pre, after, rest, hstart, -⟩
  exact h.1 hstart.occurs

/-- Without a misread, `getResponseBody` tells the rejected responses from the others. -/
theorem getResponseBody_cases {s : Text} (h : ¬ Misread s) :
    getResponseBody s = none ∨
      ¬ Rejected s ∧ ∃ text, Pair s text ∧ getResponseBody s = some text := by
  by_cases hrej : Rejected s
  · exact Or.inl (getResponseBody_of_rejected hrej h)
  · exact Or.inr ⟨hrej, getResponseBody_of_not_rejected hrej⟩

/-! ## The reads -/

/-- What a read of `s` may do to a variable: if it changes it, it is to the text of the
pair, and a rejected response does not change it. -/
def Updated (s : Text) (old new : Option Text) : Prop :=
  (new = old ∨ ∃ text, Pair s text ∧ new = some text) ∧ (Rejected s → new = old)

theorem updated_refl (s : Text) (old : Option Text) : Updated s old old :=
  ⟨Or.inl rfl, fun _ => rfl⟩

theorem updated_of_pair {s text : Text} (h : ¬ Rejected s) (hpair : Pair s text)
    (old : Option Text) : Updated s old (some text) :=
  ⟨Or.inr ⟨text, hpair, rfl⟩, fun hrej => absurd hrej h⟩

/-- What a poller makes of a response. -/
def answer (s : Text) : Option String := (getResponseBody s).map String.ofList

/-- The step does not begin the next iteration of the `i`-th poller. -/
def SameIteration (i : ℕ) (t : FirstActivity) (l : Label) : Prop :=
  ∀ answer p, l = .poll i answer → t.pollers[i]? = some p → p.pc ≠ .fetch

/-- The `i`-th poller fetches `s`. -/
def fetch (t : FirstActivity) (i : ℕ) (s : Text) : FirstActivity := t.step (.poll i (answer s))

/-- `check_state`, as a text. -/
def check_state (t : FirstActivity) : Option Text := some t.check_state.toList

/-- Each of the reads of `s` does to its variable what it may. -/
structure ConRead (s : Text) : Prop where
  -- `getResponseBody` of `showmap.onClick`
  location : ∀ (t : Maps) (i : ℕ), t.Running i →
    Updated s t.location (t.step (.response i (some s))).location
  -- an iteration of `RetrieveRequestCon.run`: its `fetch`
  check_state_fetch : ∀ (t : FirstActivity) (i : ℕ) (p : RetrieveRequestCon),
    t.pollers[i]? = some p → p.pc = .fetch →
    Updated s (check_state t) (check_state (fetch t i s))
  -- and its other steps, whatever else is done in between
  check_state : ∀ (t : FirstActivity) (i : ℕ) (p : RetrieveRequestCon) (between : List Label)
    (answer : Option String), t.pollers[i]? = some p → p.pc = .fetch →
    Steps FirstActivity.step (SameIteration i) (fetch t i s) (between ++ [.poll i answer]) →
    Updated s (check_state (run FirstActivity.step (fetch t i s) between))
      (check_state (run FirstActivity.step (fetch t i s) (between ++ [.poll i answer])))
  -- `left_check` and `right_check`
  check : ∀ (t : Navi) (side : Side) (i cin : ℕ),
    (t side).pollers[i]? = some (.response cin s) →
    Updated s (some (t side).check) (some (Navi.step t (.poll side (.read i)) side).check)
  -- and the poller of a rejected response is replaced by one other
  successor : ∀ (t : Navi) (side : Side) (i cin : ℕ),
    (t side).pollers[i]? = some (.response cin s) → Rejected s →
    (Navi.step t (.poll side (.read i)) side).pollers
      = (t side).pollers.set i .failed ++ [.request]

/-! ## `location` -/

theorem location_response {t : Maps} {i : ℕ} (h : t.Running i) (s : Text) :
    (t.step (.response i (some s))).location = (getResponseBody s).or t.location := by
  unfold Maps.step
  dsimp only
  rw [if_pos h, Option.bind_some]

theorem updated_location {s : Text} (hs : ¬ Misread s) {t : Maps} {i : ℕ} (h : t.Running i) :
    Updated s t.location (t.step (.response i (some s))).location := by
  rw [location_response h]
  rcases getResponseBody_cases hs with hnone | ⟨hrej, text, hpair, hsome⟩
  · rw [hnone, Option.none_or]
    exact updated_refl s _
  · rw [hsome, Option.some_or]
    exact updated_of_pair hrej hpair _

/-! ## `check_state` -/

/-- What the `i`-th poller holds comes from `s`. -/
def Holds (s : Text) (i : ℕ) (t : FirstActivity) : Prop :=
  ∀ p, t.pollers[i]? = some p → ∀ con, p.pc = .test con ∨ p.pc = .react con →
    getResponseBody s = some con.toList

/-- Only `react` writes, and only what the poller holds. -/
theorem check_state_poll (t : FirstActivity) (i : ℕ) (answer : Option String) :
    (t.poll i answer).check_state = t.check_state ∨
      ∃ p con, t.pollers[i]? = some p ∧ p.pc = .react con ∧
        (t.poll i answer).check_state = con := by
  unfold FirstActivity.poll
  split
  · exact Or.inl rfl
  · rename_i p hp
    dsimp only
    split
    · rename_i con hpc
      unfold FirstActivity.react
      split_ifs with h1 h2 h3
      · exact Or.inr ⟨p, con, hp, hpc, h1.symm⟩
      · exact Or.inr ⟨p, con, hp, hpc, h2.1.symm⟩
      · exact Or.inr ⟨p, con, hp, hpc, h3.1.symm⟩
      · exact Or.inl rfl
    · exact Or.inl rfl

theorem holds_fetch {t : FirstActivity} {i : ℕ} {p : RetrieveRequestCon}
    (hp : t.pollers[i]? = some p) (hpc : p.pc = .fetch) (s : Text) : Holds s i (fetch t i s) := by
  obtain ⟨session, pc⟩ := p
  obtain rfl : pc = .fetch := hpc
  have hpollers : (fetch t i s).pollers
      = t.pollers.set i ⟨session, PollerPc.fetch.next t.isChecked (answer s)⟩ := by
    simp only [fetch, FirstActivity.step, FirstActivity.poll, hp]
  intro p hp' con hcon
  rw [hpollers, List.getElem?_set_self (List.getElem?_eq_some_iff.mp hp).1] at hp'
  obtain rfl := Option.some.inj hp'
  unfold answer at hcon
  rcases hread : getResponseBody s with _ | text
  · rw [hread] at hcon
    exact absurd hcon (by simp [PollerPc.next])
  · rw [hread] at hcon
    rcases hcon with h | h
    · rw [← PollerPc.test.inj h, String.toList_ofList]
    · exact absurd h (by simp [PollerPc.next])

/-- A poller holds what it held, until its next `fetch`. -/
theorem next_eq {pc : PollerPc} (h : pc ≠ .fetch) {isChecked : Bool} {answer : Option String}
    {con : String} (hnext : pc.next isChecked answer = .test con ∨
      pc.next isChecked answer = .react con) : pc = .test con ∨ pc = .react con := by
  cases pc with
  | fetch => exact absurd rfl h
  | test con' =>
    cases isChecked with
    | true => simpa [PollerPc.next] using hnext
    | false => simp [PollerPc.next] at hnext
  | react con' =>
    by_cases hcon : con' = "stolen"
    · simp [PollerPc.next, hcon] at hnext
    · simp [PollerPc.next, hcon] at hnext
  | sleep => simp [PollerPc.next] at hnext
  | stopped => simp [PollerPc.next] at hnext
  | failed => simp [PollerPc.next] at hnext
  | reported => simp [PollerPc.next] at hnext

theorem holds_step {s : Text} {i : ℕ} {t : FirstActivity} (h : Holds s i t) {l : Label}
    (hsame : SameIteration i t l) : Holds s i (t.step l) := by
  cases l with
  | click =>
    intro p hp con hcon
    cases hchecked : t.isChecked with
    | true =>
      rw [FirstActivity.step, FirstActivity.onClick_of_on hchecked] at hp
      exact h p hp con hcon
    | false =>
      rw [FirstActivity.step, FirstActivity.onClick_of_off hchecked] at hp
      change (t.pollers ++ [_])[i]? = some p at hp
      rw [List.getElem?_append] at hp
      split_ifs at hp
      · exact h p hp con hcon
      · rw [List.mem_singleton.mp (List.mem_of_getElem? hp)] at hcon
        exact absurd hcon (by simp)
  | post j => exact h
  | poll j answer =>
    intro p' hp' con hcon
    change (t.poll j answer).pollers[i]? = some p' at hp'
    unfold FirstActivity.poll at hp'
    split at hp'
    · exact h p' hp' con hcon
    · rename_i p hp
      change (t.pollers.set j _)[i]? = some p' at hp'
      by_cases hji : j = i
      · subst hji
        rw [List.getElem?_set_self (List.getElem?_eq_some_iff.mp hp).1] at hp'
        obtain rfl := Option.some.inj hp'
        exact h p hp con (next_eq (hsame answer p rfl hp) hcon)
      · rw [List.getElem?_set_ne hji] at hp'
        exact h p' hp' con hcon

theorem updated_check_state_fetch {t : FirstActivity} {i : ℕ} {p : RetrieveRequestCon}
    (hp : t.pollers[i]? = some p) (hpc : p.pc = .fetch) (s : Text) :
    Updated s (check_state t) (check_state (fetch t i s)) := by
  rcases check_state_poll t i (answer s) with heq | ⟨p', con, hp', hpc', -⟩
  · unfold check_state
    rw [show (fetch t i s).check_state = t.check_state from heq]
    exact updated_refl s _
  · obtain rfl := Option.some.inj (hp.symm.trans hp')
    exact absurd (hpc.symm.trans hpc') (by simp)

theorem updated_check_state {s : Text} (hs : ¬ Misread s) {t : FirstActivity} {i : ℕ}
    (h : Holds s i t) (answer : Option String) :
    Updated s (check_state t) (check_state (t.poll i answer)) := by
  unfold check_state
  rcases check_state_poll t i answer with heq | ⟨p, con, hp, hpc, heq⟩
  · rw [heq]
    exact updated_refl s _
  · have hread := h p hp con (Or.inr hpc)
    rcases getResponseBody_cases hs with hnone | ⟨hrej, text, hpair, hsome⟩
    · exact absurd (hread.symm.trans hnone) (by simp)
    · obtain rfl := Option.some.inj (hread.symm.trans hsome)
      rw [heq]
      exact updated_of_pair hrej hpair _

/-! ## `left_check` and `right_check` -/

theorem read_response {t : Navi} {side : Side} {i cin : ℕ} {s : Text}
    (hi : (t side).pollers[i]? = some (.response cin s)) :
    Navi.step t (.poll side (.read i)) side = (t side).retrieve i cin s := by
  unfold Navi.step
  dsimp only
  rw [Function.update_self]
  simp only [Polling.step, hi]

theorem updated_check {s : Text} (hs : ¬ Misread s) (t : Polling) (i cin : ℕ) :
    Updated s (some t.check) (some (t.retrieve i cin s).check) := by
  unfold Polling.retrieve
  rcases getResponseBody_cases hs with hnone | ⟨hrej, text, hpair, hsome⟩
  · rw [hnone]
    exact updated_refl s _
  · rw [hsome]
    dsimp only
    by_cases hcon : IsLight text
    · rw [if_pos hcon]
      exact updated_of_pair hrej hpair _
    · rw [if_neg hcon]
      exact updated_refl s _

/-! ## The reads as a whole -/

theorem conRead_of_not_misread {s : Text} (hs : ¬ Misread s) : ConRead s where
  location _ _ h := updated_location hs h
  check_state_fetch _ _ _ hp hpc := updated_check_state_fetch hp hpc s
  check_state t i p between answer hp hpc hsteps := by
    rw [steps_concat] at hsteps
    have hholds := hsteps.1.invariant (fun t l h hsame => holds_step h hsame) (holds_fetch hp hpc s)
    rw [run_concat]
    exact updated_check_state hs hholds answer
  check t side i cin hi := by
    rw [read_response hi]
    exact updated_check hs _ i cin
  successor t side i cin hi hrej := by
    rw [read_response hi]
    unfold Polling.retrieve
    rw [getResponseBody_of_rejected hrej hs]
    rfl

/-- A misread response changes `location`. -/
theorem not_conRead_of_misread {s : Text} (hs : Misread s) : ¬ ConRead s := by
  intro h
  obtain ⟨text, htext⟩ := getResponseBody_of_misread hs
  have hrunning : Maps.Running ⟨none, [true], [false], false⟩ 0 := ⟨rfl, rfl⟩
  have hsame := (h.location _ 0 hrunning).2 (rejected_of_misread hs)
  rw [location_response hrunning, htext] at hsame
  exact absurd hsame (by simp)

/-- **Reading the con element.** The reads of a response change their variables only to the
text between the first `<con>` and the first `</con>` after it, leave them as they are where
there is no such text, and go on with one successor, exactly if it is not so that there is
no `<con>` and the first `</con>` stands at index 4 or later. -/
theorem con_read_iff (s : Text) : ConRead s ↔ ¬ Misread s :=
  ⟨fun h hs => not_conRead_of_misread hs h, conRead_of_not_misread⟩

/-- A response without its `<con>`. -/
def without_start : Text := ['<', 'c', 'i', 'n', '2', '<', '/', 'c', 'o', 'n', '>']

/-- Its `2` becomes `left_check`. -/
theorem misread_without_start :
    ¬ ConRead without_start ∧
    (run Navi.step Navi.init
      [.onCreate, .poll .left (.create without_start), .poll .left (.handle 0),
        .poll .left (.read 0)] .left).check = ['2'] := by
  refine ⟨not_conRead_of_misread ⟨by decide, ?_⟩, by decide +kernel⟩
  obtain ⟨pre, rest, hfirst, hlen⟩ :=
    firstIdx?_eq_some (t := con_finish) (s := without_start) (i := 5) (by decide)
  have hle := length_le_encode pre
  exact ⟨pre, rest, hfirst, by omega⟩

end ConElement

end SmartBike.App
