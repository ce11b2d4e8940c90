/-
What becomes of a content that is written by one of the programs and read by the app:
`ContentInstanceObject.makeBodyXML` of `FirstActivity.java` and `crtci` of `adn.js` against
`getResponseBody`, for a server that gives back the representation it has been given.

The app reads the text between `<con>` and `</con>` as it stands there. `makeBodyXML` writes the
content as it is, so what the app writes is read back unless the content has the closing tag in
it (`makeBodyXML_read_iff`). `adn.js` writes entities, which the app does not resolve, so what
the gateway writes is read back unless a character has one (`crtci_read_iff`). Neither is read
back if it has line ends, which are lost on the way: `run` reads line by line and puts the lines
one behind the other.
-/
import SmartBike.App.ConElement
import SmartBike.Gateway.Body

set_option autoImplicit false

open Markup Occurrence Utf16

namespace SmartBike.App

open Gateway (Text crtci_body crtci_head crtci_tail)

namespace ConElement

/-! ## Bodies -/

/-- What `makeBodyXML` writes before the content. -/
def body_head : Text :=
  ("<?xml version=\"1.0\" encoding=\"UTF-8\"?>" ++ "<m2m:cin " ++
    "xmlns:m2m=\"http://www.onem2m.org/xml/protocols\" " ++
    "xmlns:xsi=\"http://www.w3.org/2001/XMLSchema-instance\">" ++ "<cnf>text</cnf>").toList

def makeBodyXML (content : Text) : Text :=
  body_head ++ (con_start ++ (content ++ (con_finish ++ "</m2m:cin>".toList)))

def isLineEnd (c : Char) : Bool := c = '\n' || c = '\r'

/-- The lines of a response, one behind the other: `resp += strLine`. -/
def resp (body : Text) : Text := body.filter fun c => !isLineEnd c

theorem resp_append (s t : Text) : resp (s ++ t) = resp s ++ resp t := List.filter_append ..

theorem resp_eq_self {s : Text} (h : ∀ c ∈ s, isLineEnd c = false) : resp s = s := by
  rw [resp, List.filter_eq_self]
  intro c hc
  rw [h c hc]
  rfl

theorem not_lineEnd_resp {s : Text} {c : Char} (h : c ∈ resp s) : isLineEnd c = false := by
  simpa using (List.mem_filter.mp h).2

/-! ## Reading -/

/-- **What is read of a response**: from the first `<con>` to the first `</con>`, which need not be
the one that belongs to it. -/
theorem getResponseBody_between {pre : Text} (text post : Text) (hpre : ¬ con_start <:+: pre)
    (hfinish : ¬ con_finish <:+: pre ++ con_start) :
    ∃ t rest, First con_finish (text ++ (con_finish ++ post)) t rest ∧
      getResponseBody (pre ++ (con_start ++ (text ++ (con_finish ++ post)))) = some t := by
  have hstart : First con_start (pre ++ (con_start ++ (text ++ (con_finish ++ post)))) pre
      (text ++ (con_finish ++ post)) :=
    first_of_not_infix (by decide) hpre _
  have hocc : con_finish <:+: pre ++ (con_start ++ (text ++ (con_finish ++ post))) :=
    ⟨pre ++ con_start ++ text, post, by simp only [List.append_assoc]⟩
  obtain ⟨pre', rest, hclose⟩ := exists_first hocc
  -- the first `</con>` does not begin before the end of `<con>`
  have hle : pre.length + con_start.length ≤ pre'.length := by
    rcases tags_apart hstart hclose with hlt | hle
    · exfalso
      have hinside : pre'.length + con_finish.length ≤ pre.length :=
        le_of_lt (c := '<') hclose.split hstart.split (by decide) hlt
      have hprefix : pre' ++ con_finish <+: pre := by
        have hwhole : pre' ++ con_finish <+: pre ++ (con_start ++ (text ++ (con_finish ++ post))) :=
          ⟨rest, by rw [List.append_assoc]; exact hclose.split.symm⟩
        apply List.prefix_of_prefix_length_le hwhole (List.prefix_append pre _)
        rw [List.length_append]
        exact hinside
      obtain ⟨u, hu⟩ := hprefix
      exact hfinish ⟨pre', u ++ con_start, by rw [← hu]; simp only [List.append_assoc]⟩
    · exact hle
  have hs : pre ++ (con_start ++ (text ++ (con_finish ++ post)))
      = (pre ++ con_start) ++ (text ++ (con_finish ++ post)) := by
    rw [List.append_assoc]
  rw [hs] at hclose
  obtain ⟨t, rfl, hfirst⟩ := hclose.drop (by rw [List.length_append]; exact hle)
  refine ⟨t, rest, hfirst, ?_⟩
  have hread := substring_of_le (hclose.split.trans (by rfl))
  have hfirst' : indexOf (pre ++ con_start ++ (text ++ (con_finish ++ post))) con_start + 5
      = (encode (pre ++ con_start)).length := by
    rw [indexOf_of_first con_start_ne_nil (hs ▸ hstart), encode_append, List.length_append]
    rfl
  rw [hs, getResponseBody_eq, hfirst', indexOf_of_first con_finish_ne_nil hclose]
  exact hread

/-- A content is read back whole if it does not have the closing tag in it, and not if it has. -/
theorem getResponseBody_iff {pre text post content : Text} (hpre : ¬ con_start <:+: pre)
    (hfinish : ¬ con_finish <:+: pre ++ con_start) (hlen : text.length ≤ content.length) :
    getResponseBody (pre ++ (con_start ++ (text ++ (con_finish ++ post)))) = some content ↔
      text = content ∧ ¬ con_finish <:+: text := by
  obtain ⟨t, rest, hfirst, hread⟩ := getResponseBody_between text post hpre hfinish
  rw [hread, Option.some.injEq]
  constructor
  · rintro rfl
    have hle : t.length ≤ text.length := hfirst.first text post rfl
    have heq : text = t :=
      (List.append_inj hfirst.split (le_antisymm hlen hle)).1
    subst heq
    refine ⟨rfl, ?_⟩
    rintro ⟨u, v, huv⟩
    have hearlier := hfirst.first u (v ++ (con_finish ++ post)) (by
      rw [← huv]
      simp only [List.append_assoc])
    rw [← huv, List.length_append, List.length_append] at hearlier
    have hpos : 0 < con_finish.length := by decide
    omega
  · rintro ⟨rfl, hnot⟩
    have hwhole : First con_finish (text ++ (con_finish ++ post)) text post :=
      first_of_not_infix (by decide) hnot post
    exact (hfirst.unique hwhole).1

/-! ## What the app has written -/

theorem not_infix_body_head :
    ¬ con_start <:+: body_head ∧ ¬ con_finish <:+: body_head ++ con_start := by
  constructor
  · decide +kernel
  · decide +kernel

theorem resp_makeBodyXML (content : Text) :
    resp (makeBodyXML content)
      = body_head ++ (con_start ++ (resp content ++ (con_finish ++ "</m2m:cin>".toList))) := by
  have hhead : resp body_head = body_head := by decide +kernel
  have hstart : resp con_start = con_start := by decide
  have htail : resp (con_finish ++ "</m2m:cin>".toList) = con_finish ++ "</m2m:cin>".toList := by
    decide
  rw [makeBodyXML, resp_append, resp_append, resp_append, hhead, hstart, htail]

theorem resp_eq_self_iff (s : Text) : resp s = s ↔ ∀ c ∈ s, isLineEnd c = false :=
  ⟨fun h _ hc => not_lineEnd_resp (h.symm ▸ hc), resp_eq_self⟩

/-- **What the app writes is read back** exactly if it has neither the closing tag nor a line end
in it. -/
theorem makeBodyXML_read_iff (content : Text) :
    getResponseBody (resp (makeBodyXML content)) = some content ↔
      ¬ con_finish <:+: content ∧ ∀ c ∈ content, isLineEnd c = false := by
  obtain ⟨hpre, hfinish⟩ := not_infix_body_head
  have hlen : (resp content).length ≤ content.length := List.length_filter_le _ _
  rw [resp_makeBodyXML, getResponseBody_iff hpre hfinish hlen, ← resp_eq_self_iff]
  constructor
  · rintro ⟨heq, hnot⟩
    rw [heq] at hnot
    exact ⟨hnot, heq⟩
  · rintro ⟨hnot, heq⟩
    rw [heq]
    exact ⟨rfl, hnot⟩

/-! ## What the gateway has written -/

/-- The lines before the content. -/
def cin_head : Text :=
  ("<?xml version=\"1.0\" encoding=\"UTF-8\"?><m2m:cin xmlns:m2m=\"http://www.onem2m.org/xml/" ++
    "protocols\" xmlns:xsi=\"http://www.w3.org/2001/XMLSchema-instance\">\t").toList

theorem resp_crtci_body (content : Text) :
    resp (crtci_body (some content))
      = cin_head ++ (con_start ++ (resp (content.flatMap entity) ++
        (con_finish ++ "</m2m:cin>".toList))) := by
  have hhead : resp crtci_head = cin_head ++ con_start := by decide +kernel
  have htail : resp crtci_tail = con_finish ++ "</m2m:cin>".toList := by decide +kernel
  rw [Gateway.crtci_body_eq, resp_append, resp_append, hhead, htail, Option.getD_some,
    Gateway.Js2xmlparser.toString_eq, List.append_assoc]

theorem not_infix_entities (s : Text) : ¬ con_finish <:+: resp (s.flatMap entity) := by
  intro h
  have hlt : '<' ∈ resp (s.flatMap entity) := h.subset (by decide)
  exact not_mem_flatMap_entity (Or.inl rfl) s (List.mem_of_mem_filter hlt)

theorem length_le_flatMap_entity (s : Text) :
    s.length ≤ (s.flatMap entity).length ∧
      ((s.flatMap entity).length = s.length → ∀ c ∈ s, Bare c) := by
  induction s with
  | nil => simp
  | cons c s ih =>
    obtain ⟨hle, hbare⟩ := ih
    rw [List.flatMap_cons, List.length_append, List.length_cons, List.forall_mem_cons]
    by_cases hc : Bare c
    · rw [entity_bare hc, List.length_singleton]
      exact ⟨by omega, fun h => ⟨hc, hbare (by omega)⟩⟩
    · have hlong := entity_eq_of_not_bare hc
      exact ⟨by omega, fun h => by omega⟩

theorem flatMap_entity_bare {s : Text} (h : ∀ c ∈ s, Bare c) : s.flatMap entity = s := by
  induction s with
  | nil => rfl
  | cons c s ih =>
    rw [List.flatMap_cons, entity_bare (h c List.mem_cons_self),
      ih fun d hd => h d (List.mem_cons_of_mem _ hd)]
    rfl

theorem lineEnd_entity {c d : Char} (h : d ∈ entity c) (hd : isLineEnd d = true) : d = c := by
  by_cases hbare : Bare c
  · rw [entity_bare hbare] at h
    exact List.mem_singleton.mp h
  · exfalso
    have hnone : (entity c).all (fun d => !isLineEnd d) = true := by
      unfold Bare at hbare
      simp only [not_and_or, not_not] at hbare
      rcases hbare with rfl | rfl | rfl | rfl | rfl
      all_goals decide
    have hnot := List.all_eq_true.mp hnone d h
    rw [hd] at hnot
    exact Bool.false_ne_true hnot

/-- **What the gateway writes is read back** exactly if no character of it has an entity and none
is a line end. -/
theorem crtci_read_iff (content : Text) :
    getResponseBody (resp (crtci_body (some content))) = some content ↔
      ∀ c ∈ content, Bare c ∧ isLineEnd c = false := by
  have hpre : ¬ con_start <:+: cin_head := by decide +kernel
  have hfinish : ¬ con_finish <:+: cin_head ++ con_start := by decide +kernel
  obtain ⟨t, rest, hfirst, hread⟩ := getResponseBody_between
    (resp (content.flatMap entity)) "</m2m:cin>".toList hpre hfinish
  have hwhole : First con_finish _ (resp (content.flatMap entity)) "</m2m:cin>".toList :=
    first_of_not_infix (by decide) (not_infix_entities content) _
  rw [resp_crtci_body, hread, (hfirst.unique hwhole).1, Option.some.injEq]
  constructor
  · intro h
    -- what is read has no line end, so nothing has been lost
    have hline : ∀ c ∈ content, isLineEnd c = false :=
      fun c hc => not_lineEnd_resp (h.symm ▸ hc)
    have hkept : resp (content.flatMap entity) = content.flatMap entity := by
      apply resp_eq_self
      intro d hd
      obtain ⟨c, hc, hdc⟩ := List.mem_flatMap.mp hd
      by_contra hlineEnd
      rw [Bool.not_eq_false] at hlineEnd
      rw [lineEnd_entity hdc hlineEnd, hline c hc] at hlineEnd
      exact Bool.false_ne_true hlineEnd
    rw [hkept] at h
    have hbare := (length_le_flatMap_entity content).2 (congrArg List.length h)
    exact fun c hc => ⟨hbare c hc, hline c hc⟩
  · intro h
    rw [flatMap_entity_bare fun c hc => (h c hc).1]
    exact resp_eq_self fun c hc => (h c hc).2

end ConElement

end SmartBike.App
