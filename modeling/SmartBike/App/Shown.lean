/-
What the static fields of `Navi` show.

A field has the value of the instance written to it last, and an answer that is held is the
body of its instance (`Shows`). If the writes are in the order of creation, a field keeps
the value of the newest instance from the moment it has been written until another one is
created (`check_newest`); and a poll that is asked and read after the creation of the newest
instance writes it, unless somebody else has (`Asked`, `newest_of_read`).
-/
import SmartBike.App.Navi

set_option autoImplicit false

open Runs

namespace SmartBike.App

open Gateway (Text)
open Lights (Side)

namespace Polling

/-- The field is what has been written to it last, that is the value of an instance, and
the answers held are the bodies of their instances. -/
structure Shows (t : Polling) : Prop where
  check : ∀ w, t.written.getLast? = some w → t.check = w.con
  written : ∀ w ∈ t.written, t.cins[w.cin]?.bind light = some w.con
  held : ∀ cin strResp, .response cin strResp ∈ t.pollers → t.cins[cin]? = some strResp

theorem shows_init : init.Shows where
  check w h := absurd h (by simp [init])
  written w h := absurd h List.not_mem_nil
  held cin strResp h := absurd h List.not_mem_nil

theorem Shows.moved {t : Polling} (h : t.Shows) {pollers : List NaviPc} (hfewer : t.Fewer pollers) :
    Shows { t with pollers := pollers } where
  check := h.check
  written := h.written
  held cin strResp hc := h.held cin strResp (hfewer cin strResp hc)

theorem getElem?_create {cins : List Text} {n : ℕ} {body : Text} (h : cins[n]? = some body)
    (new : Text) : (cins ++ [new])[n]? = some body := by
  obtain ⟨hlt, -⟩ := List.getElem?_eq_some_iff.mp h
  rw [List.getElem?_append_left hlt]
  exact h

theorem Shows.create {t : Polling} (h : t.Shows) (body : Text) :
    Shows { t with cins := t.cins ++ [body] } where
  check := h.check
  written w hw := by
    obtain ⟨body', hbody, hlight⟩ := Option.bind_eq_some_iff.mp (h.written w hw)
    exact Option.bind_eq_some_iff.mpr ⟨body', getElem?_create hbody body, hlight⟩
  held cin strResp hc := getElem?_create (h.held cin strResp hc) body

theorem Shows.handle {t : Polling} (h : t.Shows) (i : ℕ) {body : Text}
    (hlast : t.cins.getLast? = some body) :
    Shows { t with pollers := t.pollers.set i (.response (t.cins.length - 1) body) } where
  check := h.check
  written := h.written
  held cin strResp hc := by
    rcases List.mem_or_eq_of_mem_set hc with hc | hc
    · exact h.held cin strResp hc
    · obtain ⟨rfl, rfl⟩ := NaviPc.response.inj hc
      rwa [List.getLast?_eq_getElem?] at hlast

theorem Shows.write {t : Polling} (h : t.Shows) (i : ℕ) {l : Light}
    (hl : t.cins[l.cin]?.bind light = some l.con) : (t.write i l).Shows where
  check w hw := by
    obtain rfl : l = w := by simpa [Polling.write] using hw
    rfl
  written w hw := by
    rcases List.mem_append.mp hw with hw | hw
    · exact h.written w hw
    · rw [List.mem_singleton.mp hw]
      exact hl
  held cin strResp hc := h.held cin strResp (t.fewer_set i (by simp) cin strResp hc)

theorem Shows.step {t : Polling} (h : t.Shows) (e : PollingEvent) : (t.step e).Shows := by
  rcases t.step_cases e with heq | ⟨body, -, heq⟩ | ⟨i, body, -, -, hlast, heq⟩ |
    ⟨i, cin, strResp, -, hi, heq⟩ | ⟨i, pc, -, -, -, heq⟩ | ⟨i, -, -, heq⟩
  · rw [heq]
    exact h
  · rw [heq]
    exact h.create body
  · rw [heq]
    exact h.handle i hlast
  · rw [heq]
    have hheld := h.held _ _ (List.mem_of_getElem? hi)
    rcases t.retrieve_cases i cin strResp with ⟨-, heq⟩ | ⟨-, heq⟩ | ⟨con, hcon, heq⟩
    · rw [heq]
      exact h.moved (t.fewer_catchExp i)
    · rw [heq]
      exact h.moved (t.fewer_set i (by simp))
    · rw [heq]
      exact h.write i (Option.bind_eq_some_iff.mpr ⟨strResp, hheld, hcon⟩)
  · rw [heq]
    exact h.moved (t.fewer_catchExp i)
  · rw [heq]
    exact h.moved (t.fewer_set i (by simp))

/-! ## The newest instance -/

/-- The newest instance has been written. -/
def Seen (t : Polling) : Prop := ∃ w ∈ t.written, w.cin + 1 = t.cins.length

/-- **The field shows the newest instance**, once that has been written and if the writes
are in order. -/
theorem check_newest {t : Polling} (h : t.Shows) (hdated : t.Dated) (horder : t.InOrder)
    (hseen : t.Seen) : (t.cins.getLast?).bind light = some t.check := by
  obtain ⟨w, hw, hcin⟩ := hseen
  obtain ⟨init, last, hsplit⟩ : ∃ init last, t.written = init ++ [last] := by
    rcases List.eq_nil_or_concat t.written with hnil | ⟨init, last, hconcat⟩
    · rw [hnil] at hw
      exact absurd hw List.not_mem_nil
    · exact ⟨init, last, by rw [hconcat, List.concat_eq_append]⟩
  have hmem : last ∈ t.written := by
    rw [hsplit]
    exact List.mem_append_right _ (List.mem_singleton.mpr rfl)
  -- nothing older is written after the newest
  have hle : w.cin ≤ last.cin := by
    rw [hsplit] at hw
    unfold InOrder at horder
    rw [hsplit, List.map_append, List.pairwise_append] at horder
    rcases List.mem_append.mp hw with hw | hw
    · exact horder.2.2 w.cin (List.mem_map_of_mem hw) last.cin (by simp)
    · rw [List.mem_singleton.mp hw]
  have hlt := hdated.written last hmem
  have hlast : t.cins.length - 1 = last.cin := by omega
  rw [h.check last (by rw [hsplit, List.getLast?_concat]), List.getLast?_eq_getElem?, hlast]
  exact h.written last hmem

/-- The `i`-th poller holds an answer made from the newest instance. -/
def Asked (i : ℕ) (t : Polling) : Prop :=
  ∃ cin strResp, t.pollers[i]? = some (.response cin strResp) ∧ cin + 1 = t.cins.length

theorem asked_handle {t : Polling} {i : ℕ} (hi : t.pollers[i]? = some .request)
    (hne : t.cins ≠ []) : Asked i (t.step (.handle i)) := by
  obtain ⟨body, hlast⟩ := Option.ne_none_iff_exists'.mp (List.getLast?_eq_none_iff.not.mpr hne)
  have hpos := List.length_pos_iff.mpr hne
  obtain ⟨hlt, -⟩ := List.getElem?_eq_some_iff.mp hi
  rw [step_handle hi hlast]
  refine ⟨t.cins.length - 1, body, List.getElem?_set_self hlt, ?_⟩
  change t.cins.length - 1 + 1 = t.cins.length
  omega

/-- Whatever the others do, the answer stays. -/
theorem asked_step {t : Polling} {i : ℕ} (h : Asked i t) {e : PollingEvent}
    (hcreate : ∀ body, e ≠ .create body) (hread : e ≠ .read i) (hexception : e ≠ .exception i) :
    Asked i (t.step e) := by
  obtain ⟨cin, strResp, hi, hcin⟩ := h
  obtain ⟨hlt, -⟩ := List.getElem?_eq_some_iff.mp hi
  have hset : ∀ {j : ℕ} {pc : NaviPc}, j ≠ i → (t.pollers.set j pc)[i]?
      = some (.response cin strResp) := fun hj => by rw [List.getElem?_set_ne hj, hi]
  have hcatch : ∀ {j : ℕ}, j ≠ i → Asked i (t.catchExp j) := by
    intro j hj
    refine ⟨cin, strResp, ?_, hcin⟩
    change (t.pollers.set j .failed ++ [.request])[i]? = _
    rw [List.getElem?_append_left (by rw [List.length_set]; exact hlt)]
    exact hset hj
  rcases t.step_cases e with heq | ⟨body, he, -⟩ | ⟨j, body, -, hj, -, heq⟩ |
    ⟨j, cin', strResp', he, -, heq⟩ | ⟨j, pc, he, -, -, heq⟩ | ⟨j, -, hj, heq⟩
  · rw [heq]
    exact ⟨cin, strResp, hi, hcin⟩
  · exact absurd he (hcreate body)
  · have hne : j ≠ i := by
      rintro rfl
      rw [hi] at hj
      simp at hj
    rw [heq]
    exact ⟨cin, strResp, hset hne, hcin⟩
  · have hne : j ≠ i := fun h => hread (h ▸ he)
    rw [heq]
    rcases t.retrieve_cases j cin' strResp' with ⟨-, heq⟩ | ⟨-, heq⟩ | ⟨con, -, heq⟩
    · rw [heq]
      exact hcatch hne
    · rw [heq]
      exact ⟨cin, strResp, hset hne, hcin⟩
    · rw [heq]
      exact ⟨cin, strResp, hset hne, hcin⟩
  · have hne : j ≠ i := fun h => hexception (h ▸ he)
    rw [heq]
    exact hcatch hne
  · have hne : j ≠ i := by
      rintro rfl
      rw [hi] at hj
      simp at hj
    rw [heq]
    exact ⟨cin, strResp, hset hne, hcin⟩

/-- **Reading the answer writes the newest instance.** -/
theorem seen_read {t : Polling} {i : ℕ} (hshows : t.Shows) (h : Asked i t) {con : Text}
    (hcon : t.cins.getLast?.bind light = some con) : (t.step (.read i)).Seen := by
  obtain ⟨cin, strResp, hi, hcin⟩ := h
  have hlast : t.cins.getLast? = some strResp := by
    rw [List.getLast?_eq_getElem?, ← hcin, Nat.add_sub_cancel]
    exact hshows.held _ _ (List.mem_of_getElem? hi)
  rw [hlast, Option.bind_some] at hcon
  have hstep : t.step (.read i) = t.retrieve i cin strResp := by
    simp only [step, hi]
  rw [hstep]
  rcases t.retrieve_cases i cin strResp with ⟨hnone, -⟩ | ⟨hnone, -⟩ | ⟨con', -, heq⟩
  · rw [hcon] at hnone
    exact absurd hnone (by simp)
  · rw [hcon] at hnone
    exact absurd hnone (by simp)
  · rw [heq]
    exact ⟨⟨con', cin⟩, List.mem_append_right _ (List.mem_singleton.mpr rfl), hcin⟩

theorem seen_step {t : Polling} (h : t.Seen) {e : PollingEvent}
    (hcreate : ∀ body, e ≠ .create body) : (t.step e).Seen := by
  obtain ⟨w, hw, hcin⟩ := h
  rcases t.step_cases e with heq | ⟨body, he, -⟩ | ⟨j, body, -, -, -, heq⟩ |
    ⟨j, cin, strResp, -, -, heq⟩ | ⟨j, pc, -, -, -, heq⟩ | ⟨j, -, -, heq⟩
  · rw [heq]
    exact ⟨w, hw, hcin⟩
  · exact absurd he (hcreate body)
  · rw [heq]
    exact ⟨w, hw, hcin⟩
  · rw [heq]
    rcases t.retrieve_cases j cin strResp with ⟨-, heq⟩ | ⟨-, heq⟩ | ⟨con, -, heq⟩
    · rw [heq]
      exact ⟨w, hw, hcin⟩
    · rw [heq]
      exact ⟨w, hw, hcin⟩
    · rw [heq]
      exact ⟨w, List.mem_append_left _ hw, hcin⟩
  · rw [heq]
    exact ⟨w, hw, hcin⟩
  · rw [heq]
    exact ⟨w, hw, hcin⟩

end Polling

namespace Navi

theorem shows_run (events : List NaviEvent) (side : Side) :
    (run step init events side).Shows := by
  have hstep : ∀ (t : Navi) e, (t side).Shows → (step t e side).Shows := by
    intro t e h
    rcases step_cases t e side with ⟨-, hstep⟩ | ⟨e', -, hstep⟩ | ⟨-, hstep, -⟩
    · rw [hstep]
      exact h.moved (Polling.fewer_start _)
    · rw [hstep]
      exact h.step e'
    · rw [hstep]
      exact h
  exact invariant hstep Polling.shows_init events

/-- With one opening at most every write is in order. -/
theorem inOrder_of_opened_once {events : List NaviEvent} (h : events.count .onCreate ≤ 1)
    (side : Side) : (run step init events side).InOrder := by
  have hstep : ∀ (t : Navi) e, ((t side).Settled ∧ (t side).Dated) → Timely side t e →
      ((step t e side).Settled ∧ (step t e side).Dated) :=
    fun t e h htimely => ⟨settled_step h.1 h.2 htimely, dated_step h.2 e⟩
  have hrun := (timely_run h side).invariant hstep ⟨Polling.settled_init, Polling.dated_init⟩
  exact hrun.1.order

end Navi

end SmartBike.App
