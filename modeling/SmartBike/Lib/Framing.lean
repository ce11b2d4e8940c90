/-
Framing by a terminator: a stream of bodies, each followed by a symbol that no body
contains, cut into chunks anywhere.

A receiver keeps what follows the last terminator and splits off the rest
(`receive`). Whatever the cuts, it hands out the bodies of the stream, each once and
in order (`receive_all`): a stream has only one reading as bodies and a rest
(`frames_inj`).
-/
import Mathlib.Data.List.Basic

set_option autoImplicit false

namespace Framing

variable {α : Type*} [DecidableEq α] (t : α)

/-- The stream of some bodies. -/
def frames (bodies : List (List α)) : List α := bodies.flatMap (· ++ [t])

omit [DecidableEq α] in
@[simp] theorem frames_nil : frames t [] = [] := rfl

omit [DecidableEq α] in
@[simp] theorem frames_cons (body : List α) (bodies : List (List α)) :
    frames t (body :: bodies) = body ++ t :: frames t bodies := by
  simp [frames]

omit [DecidableEq α] in
theorem frames_append (bodies bodies' : List (List α)) :
    frames t (bodies ++ bodies') = frames t bodies ++ frames t bodies' := List.flatMap_append

/-- Bodies that can be told apart: the terminator is in none. -/
def Free (bodies : List (List α)) : Prop := ∀ body ∈ bodies, t ∉ body

variable {t}

theorem splitOn_frames {bodies : List (List α)} {rest : List α} (hb : Free t bodies)
    (hr : t ∉ rest) : (frames t bodies ++ rest).splitOn t = bodies ++ [rest] := by
  induction bodies with
  | nil =>
    rw [frames_nil, List.nil_append, List.nil_append]
    exact List.splitOn_eq_singleton hr
  | cons body bodies ih =>
    have hbody : t ∉ body := hb body List.mem_cons_self
    have hbodies : Free t bodies := fun b hin => hb b (List.mem_cons_of_mem _ hin)
    rw [frames_cons, List.append_assoc, List.cons_append, List.splitOn_append_cons_self,
      List.splitOn_eq_singleton hbody, ih hbodies]
    rfl

/-- **One reading.** -/
theorem frames_inj {bodies bodies' : List (List α)} {rest rest' : List α} (hb : Free t bodies)
    (hr : t ∉ rest) (hb' : Free t bodies') (hr' : t ∉ rest')
    (h : frames t bodies ++ rest = frames t bodies' ++ rest') : bodies = bodies' ∧ rest = rest' := by
  have hsplit := splitOn_frames hb hr
  rw [h, splitOn_frames hb' hr'] at hsplit
  obtain ⟨h1, h2⟩ := List.append_inj' hsplit rfl
  exact ⟨h1.symm, (List.cons.inj h2).1.symm⟩

/-- Every list is the stream of some bodies and a rest. -/
theorem exists_frames (l : List α) :
    ∃ bodies rest, Free t bodies ∧ t ∉ rest ∧ frames t bodies ++ rest = l := by
  induction l with
  | nil => exact ⟨[], [], by simp [Free], by simp, rfl⟩
  | cons x l ih =>
    obtain ⟨bodies, rest, hb, hr, rfl⟩ := ih
    by_cases hx : x = t
    · refine ⟨[] :: bodies, rest, ?_, hr, by rw [frames_cons, hx]; rfl⟩
      intro body hbody
      rcases List.mem_cons.mp hbody with rfl | hin
      · simp
      · exact hb body hin
    · cases bodies with
      | nil =>
        refine ⟨[], x :: rest, hb, ?_, rfl⟩
        intro hin
        rcases List.mem_cons.mp hin with rfl | hin
        · exact hx rfl
        · exact hr hin
      | cons body bodies =>
        refine ⟨(x :: body) :: bodies, rest, ?_, hr, by simp⟩
        intro b hbody
        rcases List.mem_cons.mp hbody with rfl | hin
        · intro hin
          rcases List.mem_cons.mp hin with rfl | hin
          · exact hx rfl
          · exact hb body List.mem_cons_self hin
        · exact hb b (List.mem_cons_of_mem _ hin)

/-! ## Receivers -/

variable (t)

/-- What a chunk completes, and what is kept of it. -/
def receive (buffer chunk : List α) : List (List α) × List α :=
  (((buffer ++ chunk).splitOn t).dropLast, ((buffer ++ chunk).splitOn t).getLastD [])

variable {t}

theorem receive_spec (buffer chunk : List α) :
    Free t (receive t buffer chunk).1 ∧ t ∉ (receive t buffer chunk).2 ∧
      frames t (receive t buffer chunk).1 ++ (receive t buffer chunk).2 = buffer ++ chunk := by
  obtain ⟨bodies, rest, hb, hr, h⟩ := exists_frames (t := t) (buffer ++ chunk)
  have hsplit : (buffer ++ chunk).splitOn t = bodies ++ [rest] := by
    rw [← h]
    exact splitOn_frames hb hr
  have hreceive : receive t buffer chunk = (bodies, rest) := by
    unfold receive
    rw [hsplit, List.dropLast_concat]
    simp
  rw [hreceive]
  exact ⟨hb, hr, h⟩

/-- A chunk without a terminator completes nothing. -/
theorem receive_open {buffer chunk : List α} (hb : t ∉ buffer) (hc : t ∉ chunk) :
    receive t buffer chunk = ([], buffer ++ chunk) := by
  have hnot : t ∉ buffer ++ chunk := by simp [hb, hc]
  unfold receive
  rw [List.splitOn_eq_singleton hnot]
  rfl

/-- A chunk that ends with a terminator leaves nothing. -/
theorem receive_closed {buffer chunk : List α} (hc : chunk.getLast? = some t) :
    (receive t buffer chunk).2 = [] := by
  obtain ⟨hb, hr, h⟩ := receive_spec (t := t) buffer chunk
  obtain ⟨init, rfl⟩ := List.getLast?_eq_some_iff.mp hc
  rcases List.eq_nil_or_concat (receive t buffer (init ++ [t])).2 with hnil | ⟨l, x, hx⟩
  · exact hnil
  · -- the last symbol of the rest would be the terminator
    rw [List.concat_eq_append] at hx
    rw [hx, ← List.append_assoc, ← List.append_assoc] at h
    have hlast : x = t := by simpa using congrArg List.getLast? h
    rw [hx, hlast] at hr
    simp at hr

/-- The bodies a receiver hands out for a list of chunks, and what it keeps. -/
def receiveAll (t : α) : List α → List (List α) → List (List α) × List α
  | buffer, [] => ([], buffer)
  | buffer, chunk :: chunks =>
    ((receive t buffer chunk).1 ++ (receiveAll t (receive t buffer chunk).2 chunks).1,
      (receiveAll t (receive t buffer chunk).2 chunks).2)

theorem receiveAll_append (buffer : List α) (chunks chunks' : List (List α)) :
    receiveAll t buffer (chunks ++ chunks')
      = ((receiveAll t buffer chunks).1
          ++ (receiveAll t (receiveAll t buffer chunks).2 chunks').1,
        (receiveAll t (receiveAll t buffer chunks).2 chunks').2) := by
  induction chunks generalizing buffer with
  | nil => rfl
  | cons chunk chunks ih => simp only [List.cons_append, receiveAll, ih, List.append_assoc]

theorem receiveAll_spec (buffer : List α) (hbuffer : t ∉ buffer) (chunks : List (List α)) :
    Free t (receiveAll t buffer chunks).1 ∧ t ∉ (receiveAll t buffer chunks).2 ∧
      frames t (receiveAll t buffer chunks).1 ++ (receiveAll t buffer chunks).2
        = buffer ++ chunks.flatten := by
  induction chunks generalizing buffer with
  | nil => exact ⟨by simp [Free, receiveAll], hbuffer, by simp [receiveAll]⟩
  | cons chunk chunks ih =>
    obtain ⟨hb, hr, h⟩ := receive_spec (t := t) buffer chunk
    obtain ⟨hb', hr', h'⟩ := ih _ hr
    refine ⟨?_, hr', ?_⟩
    · intro body hbody
      rcases List.mem_append.mp hbody with hin | hin
      · exact hb body hin
      · exact hb' body hin
    · simp only [receiveAll]
      rw [frames_append, List.append_assoc, h', ← List.append_assoc, h, List.append_assoc,
        List.flatten_cons]

/-- **Cuts do not matter.** -/
theorem receive_all {bodies : List (List α)} (hb : Free t bodies) {chunks : List (List α)}
    (h : chunks.flatten = frames t bodies) : receiveAll t [] chunks = (bodies, []) := by
  obtain ⟨hb', hr', h'⟩ := receiveAll_spec (t := t) [] (by simp) chunks
  rw [List.nil_append, h, ← List.append_nil (frames t bodies)] at h'
  obtain ⟨h1, h2⟩ := frames_inj hb' hr' hb (by simp) h'
  exact Prod.ext h1 h2

end Framing
