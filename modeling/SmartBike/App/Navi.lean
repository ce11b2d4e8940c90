/-
The polls of `Navi.java`: `onCreate`, `do_left`, `do_right`, and `run` of
`left_RetrieveRequestCon` and `right_RetrieveRequestCon`.

Both sides have the same code on a static field and a container of their own, so one
definition, `Polling`, describes either. Every opening of the activity starts a poller for
each side, and a poller that an exception ends has started its successor before, so there
are always as many as there have been openings (`alive_run`). Each asks for the latest
instance again and again, and what it is answered may be read much later.

An answer that is still to be read when the server handles the request of another poller, and is
older than the one this is given, can be written after it. `light_iff` says that as long as no
request is handled so, the field does not go backwards in whatever order the answers are read,
that it can from the first one that is, and that with one poller there is none.
-/
import SmartBike.App.Maps
import SmartBike.Lights.CombinedMode

set_option autoImplicit false

open Runs

namespace SmartBike.App

open Gateway (Text)
open Lights (Side)

/-! ## One side -/

/-- One of the contents that `run` tests for. -/
def IsLight (con : Text) : Prop := con = ['0'] ∨ con = ['1'] ∨ con = ['2']

instance (con : Text) : Decidable (IsLight con) := inferInstanceAs (Decidable (_ ∨ _ ∨ _))

/-- Where `run` is. -/
inductive NaviPc where
  -- the request is on its way to the server
  | request
  -- the response, made from the `cin`-th instance of the container
  | response (cin : ℕ) (strResp : Text)
  -- lines 303 and 378
  | sleep
  -- past the `catch`
  | failed
  deriving DecidableEq, Repr

namespace NaviPc

/-- The thread is alive. -/
def alive : NaviPc → Bool
  | failed => false
  | _ => true

end NaviPc

/-- A value written to the static field, and the instance it comes from. -/
structure Light where
  con : Text
  cin : ℕ
  deriving DecidableEq, Repr

/-- The bodies with which the server answers for the instances of the container, oldest
first, the pollers in the order of their start, the static field, and all that has been
written to it. -/
structure Polling where
  cins : List Text
  pollers : List NaviPc
  check : Text
  written : List Light
  deriving DecidableEq, Repr

inductive PollingEvent where
  -- an instance is created
  | create (body : Text)
  -- the server handles the request of the `i`-th poller
  | handle (i : ℕ)
  -- which then reads the response, lines 283-302 and 358-377
  | read (i : ℕ)
  -- an exception in the `i`-th poller, of the connection
  | exception (i : ℕ)
  -- the end of its `sleep`
  | wake (i : ℕ)
  deriving DecidableEq, Repr

namespace Polling

def init : Polling := ⟨[], [], ['-', '1'], []⟩

/-- `ret_l.start()` and `ret_r.start()`, in `onCreate` as in `do_left` and `do_right`. -/
def start (t : Polling) : Polling := { t with pollers := t.pollers ++ [.request] }

/-- The `catch`. -/
def catchExp (t : Polling) (i : ℕ) : Polling :=
  start { t with pollers := t.pollers.set i .failed }

/-- The assignment of `con` to the static field. -/
def write (t : Polling) (i : ℕ) (light : Light) : Polling :=
  { t with
    check := light.con
    written := t.written ++ [light]
    pollers := t.pollers.set i .sleep }

/-- What `run` does with a response. `con_check` is -1 in every iteration, and of the three
tests one holds at most. -/
def retrieve (t : Polling) (i cin : ℕ) (strResp : Text) : Polling :=
  match getResponseBody strResp with
  | none => t.catchExp i
  | some con =>
    if IsLight con then t.write i ⟨con, cin⟩
    else { t with pollers := t.pollers.set i .sleep }

def step (t : Polling) : PollingEvent → Polling
  | .create body => { t with cins := t.cins ++ [body] }
  | .handle i =>
    match t.pollers[i]?, t.cins.getLast? with
    | some .request, some body =>
      { t with pollers := t.pollers.set i (.response (t.cins.length - 1) body) }
    | _, _ => t
  | .read i =>
    match t.pollers[i]? with
    | some (.response cin strResp) => t.retrieve i cin strResp
    | _ => t
  | .exception i => if t.pollers[i]?.any NaviPc.alive then t.catchExp i else t
  | .wake i =>
    if t.pollers[i]? = some .sleep then { t with pollers := t.pollers.set i .request } else t

/-- The values written are those of instances in the order of their creation. -/
def InOrder (t : Polling) : Prop := (t.written.map Light.cin).Pairwise (· ≤ ·)

instance (t : Polling) : Decidable t.InOrder := inferInstanceAs (Decidable (List.Pairwise _ _))

/-- The value that a response leads to, if it is one of those looked for. -/
def light (strResp : Text) : Option Text := (getResponseBody strResp).filter fun con => IsLight con

/-- A poller is still to read an answer made from the `cin`-th instance that leads to a value. -/
def UnderWay (t : Polling) (cin : ℕ) : Prop :=
  ∃ strResp, .response cin strResp ∈ t.pollers ∧ light strResp ≠ none

/-- The server does not handle a request, and answer it with a value, while an older answer is
under way. -/
def Timely (t : Polling) : PollingEvent → Prop
  | .handle i => ∀ body, t.pollers[i]? = some .request → t.cins.getLast? = some body →
      light body ≠ none → ∀ cin, t.UnderWay cin → t.cins.length - 1 ≤ cin
  | _ => True

/-- What an event does. -/
theorem step_cases (t : Polling) (e : PollingEvent) :
    t.step e = t ∨
      (∃ body, e = .create body ∧ t.step e = { t with cins := t.cins ++ [body] }) ∨
      (∃ i body, e = .handle i ∧ t.pollers[i]? = some .request ∧ t.cins.getLast? = some body ∧
        t.step e
          = { t with pollers := t.pollers.set i (.response (t.cins.length - 1) body) }) ∨
      (∃ i cin strResp, e = .read i ∧ t.pollers[i]? = some (.response cin strResp) ∧
        t.step e = t.retrieve i cin strResp) ∨
      (∃ i pc, e = .exception i ∧ t.pollers[i]? = some pc ∧ pc.alive = true ∧
        t.step e = t.catchExp i) ∨
      ∃ i, e = .wake i ∧ t.pollers[i]? = some .sleep ∧
        t.step e = { t with pollers := t.pollers.set i .request } := by
  cases e with
  | create body => exact Or.inr (Or.inl ⟨body, rfl, rfl⟩)
  | handle i =>
    unfold step
    dsimp only
    split
    · rename_i body hi hlast
      exact Or.inr (Or.inr (Or.inl ⟨i, body, rfl, hi, hlast, rfl⟩))
    · exact Or.inl rfl
  | read i =>
    unfold step
    dsimp only
    split
    · rename_i cin strResp hi
      exact Or.inr (Or.inr (Or.inr (Or.inl ⟨i, cin, strResp, rfl, hi, rfl⟩)))
    · exact Or.inl rfl
  | exception i =>
    unfold step
    dsimp only
    by_cases h : t.pollers[i]?.any NaviPc.alive = true
    · obtain ⟨pc, hi, hpc⟩ := (Option.any_eq_true _ _).mp h
      exact Or.inr (Or.inr (Or.inr (Or.inr (Or.inl ⟨i, pc, rfl, hi, hpc, if_pos h⟩))))
    · exact Or.inl (if_neg h)
  | wake i =>
    unfold step
    dsimp only
    by_cases h : t.pollers[i]? = some .sleep
    · exact Or.inr (Or.inr (Or.inr (Or.inr (Or.inr ⟨i, rfl, h, if_pos h⟩))))
    · exact Or.inl (if_neg h)

/-- Where a response leads. -/
theorem retrieve_cases (t : Polling) (i cin : ℕ) (strResp : Text) :
    (light strResp = none ∧ t.retrieve i cin strResp = t.catchExp i) ∨
      (light strResp = none ∧
        t.retrieve i cin strResp = { t with pollers := t.pollers.set i .sleep }) ∨
      ∃ con, light strResp = some con ∧ t.retrieve i cin strResp = t.write i ⟨con, cin⟩ := by
  unfold light retrieve
  rcases getResponseBody strResp with _ | con
  · exact Or.inl ⟨rfl, rfl⟩
  · by_cases hcon : IsLight con
    · exact Or.inr (Or.inr ⟨con, by simp [hcon], if_pos hcon⟩)
    · exact Or.inr (Or.inl ⟨by simp [hcon], if_neg hcon⟩)

/-! ## The answers under way -/

/-- The instances written exist, as do those of the answers held. -/
structure Dated (t : Polling) : Prop where
  written : ∀ w ∈ t.written, w.cin < t.cins.length
  held : ∀ cin strResp, .response cin strResp ∈ t.pollers → cin < t.cins.length

/-- The values written are in order, none of them is newer than an answer under way, and these are
all made from one instance. -/
structure Settled (t : Polling) : Prop where
  order : t.InOrder
  above : ∀ w ∈ t.written, ∀ cin, t.UnderWay cin → w.cin ≤ cin
  same : ∀ cin cin', t.UnderWay cin → t.UnderWay cin' → cin = cin'

theorem dated_init : init.Dated where
  written _ h := absurd h List.not_mem_nil
  held _ _ h := absurd h List.not_mem_nil

theorem settled_init : init.Settled where
  order := List.Pairwise.nil
  above _ h := absurd h List.not_mem_nil
  same := by
    rintro _ _ ⟨strResp, hc, -⟩
    exact absurd hc List.not_mem_nil

/-- The answers held are some of those there were. -/
def Fewer (t : Polling) (pollers : List NaviPc) : Prop :=
  ∀ cin strResp, .response cin strResp ∈ pollers → .response cin strResp ∈ t.pollers

theorem fewer_set (t : Polling) (i : ℕ) {pc : NaviPc}
    (hpc : ∀ cin strResp, .response cin strResp ≠ pc) :
    t.Fewer (t.pollers.set i pc) := by
  intro cin strResp hc
  rcases List.mem_or_eq_of_mem_set hc with hc | hc
  · exact hc
  · exact absurd hc (hpc cin strResp)

theorem fewer_start (t : Polling) : t.Fewer t.start.pollers := by
  intro cin strResp hc
  rcases List.mem_append.mp hc with hc | hc
  · exact hc
  · exact absurd (List.mem_singleton.mp hc) (by simp)

theorem fewer_catchExp (t : Polling) (i : ℕ) : t.Fewer (t.catchExp i).pollers := by
  intro cin strResp hc
  have hset := fewer_start _ cin strResp hc
  exact t.fewer_set i (by simp) cin strResp hset

theorem UnderWay.of_fewer {t : Polling} {pollers : List NaviPc} (hfewer : t.Fewer pollers) {cin : ℕ}
    (h : UnderWay { t with pollers := pollers } cin) : t.UnderWay cin := by
  obtain ⟨strResp, hc, hlight⟩ := h
  exact ⟨strResp, hfewer cin strResp hc, hlight⟩

theorem Dated.moved {t : Polling} (h : t.Dated) {pollers : List NaviPc} (hfewer : t.Fewer pollers) :
    Dated { t with pollers := pollers } where
  written := h.written
  held cin strResp hc := h.held cin strResp (hfewer cin strResp hc)

theorem Settled.moved {t : Polling} (h : t.Settled) {pollers : List NaviPc}
    (hfewer : t.Fewer pollers) : Settled { t with pollers := pollers } where
  order := h.order
  above w hw cin hc := h.above w hw cin (hc.of_fewer hfewer)
  same cin cin' hc hc' := h.same cin cin' (hc.of_fewer hfewer) (hc'.of_fewer hfewer)

theorem Dated.create {t : Polling} (h : t.Dated) (body : Text) :
    Dated { t with cins := t.cins ++ [body] } where
  written w hw := by
    have := h.written w hw
    rw [List.length_append, List.length_singleton]
    omega
  held cin strResp hc := by
    have := h.held cin strResp hc
    rw [List.length_append, List.length_singleton]
    omega

theorem length_pos_of_getLast? {cins : List Text} {body : Text} (h : cins.getLast? = some body) :
    0 < cins.length := by
  rw [List.length_pos_iff]
  rintro hnil
  rw [hnil] at h
  exact absurd h (by simp)

theorem Dated.handle {t : Polling} (h : t.Dated) (i : ℕ) {body : Text}
    (hlast : t.cins.getLast? = some body) :
    Dated { t with pollers := t.pollers.set i (.response (t.cins.length - 1) body) } where
  written := h.written
  held cin strResp hc := by
    rcases List.mem_or_eq_of_mem_set hc with hc | hc
    · exact h.held cin strResp hc
    · obtain ⟨rfl, -⟩ := NaviPc.response.inj hc
      have hpos := length_pos_of_getLast? hlast
      change _ < t.cins.length
      omega

/-- A new answer is the newest instance; if it leads to a value, there is none under way but of
this instance. -/
theorem Settled.handle {t : Polling} (h : t.Settled) (hd : t.Dated) {i : ℕ} {body : Text}
    (hi : t.pollers[i]? = some .request) (hlast : t.cins.getLast? = some body)
    (htimely : t.Timely (.handle i)) :
    Settled { t with pollers := t.pollers.set i (.response (t.cins.length - 1) body) } := by
  have hcases : ∀ cin, UnderWay
      { t with pollers := t.pollers.set i (.response (t.cins.length - 1) body) } cin →
      t.UnderWay cin ∨ light body ≠ none ∧ cin = t.cins.length - 1 := by
    rintro cin ⟨strResp, hc, hlight⟩
    rcases List.mem_or_eq_of_mem_set hc with hc | hc
    · exact Or.inl ⟨strResp, hc, hlight⟩
    · obtain ⟨rfl, rfl⟩ := NaviPc.response.inj hc
      exact Or.inr ⟨hlight, rfl⟩
  have hnewest : light body ≠ none → ∀ cin, t.UnderWay cin → cin = t.cins.length - 1 := by
    intro hlight cin hc
    have hle := htimely body hi hlast hlight cin hc
    obtain ⟨strResp, hmem, -⟩ := hc
    have hlt := hd.held cin strResp hmem
    omega
  refine ⟨h.order, ?_, ?_⟩
  · intro w hw cin hc
    rcases hcases cin hc with hc | ⟨-, rfl⟩
    · exact h.above w hw cin hc
    · have hlt := hd.written w hw
      omega
  · intro cin cin' hc hc'
    rcases hcases cin hc with hc | ⟨hlight, rfl⟩
    · rcases hcases cin' hc' with hc' | ⟨hlight, rfl⟩
      · exact h.same cin cin' hc hc'
      · exact hnewest hlight cin hc
    · rcases hcases cin' hc' with hc' | ⟨-, rfl⟩
      · exact (hnewest hlight cin' hc').symm
      · rfl

theorem Dated.write {t : Polling} (h : t.Dated) (i : ℕ) {light : Light}
    (hlight : light.cin < t.cins.length) : (t.write i light).Dated where
  written w hw := by
    rcases List.mem_append.mp hw with hw | hw
    · exact h.written w hw
    · rw [List.mem_singleton.mp hw]
      exact hlight
  held cin strResp hc := h.held cin strResp (t.fewer_set i (by simp) cin strResp hc)

/-- What is under way is no older than what is written of it. -/
theorem Settled.write {t : Polling} (h : t.Settled) (i : ℕ) {light : Light}
    (hlight : t.UnderWay light.cin) : (t.write i light).Settled := by
  have hfewer : t.Fewer (t.write i light).pollers := t.fewer_set i (by simp)
  refine ⟨?_, ?_, ?_⟩
  · have horder := h.order
    unfold InOrder at horder ⊢
    change ((t.written ++ [light]).map Light.cin).Pairwise (· ≤ ·)
    rw [List.map_append, List.pairwise_append]
    refine ⟨horder, List.pairwise_singleton _ _, ?_⟩
    intro cin hcin cin' hcin'
    obtain ⟨w, hw, rfl⟩ := List.mem_map.mp hcin
    rw [List.map_singleton, List.mem_singleton] at hcin'
    rw [hcin']
    exact h.above w hw light.cin hlight
  · intro w hw cin hc
    have hc' : t.UnderWay cin := hc.of_fewer hfewer
    rcases List.mem_append.mp hw with hw | hw
    · exact h.above w hw cin hc'
    · rw [List.mem_singleton.mp hw]
      exact (h.same light.cin cin hlight hc').le
  · intro cin cin' hc hc'
    exact h.same cin cin' (hc.of_fewer hfewer) (hc'.of_fewer hfewer)

theorem Dated.retrieve {t : Polling} (h : t.Dated) (i : ℕ) {cin : ℕ}
    (hcin : cin < t.cins.length) (strResp : Text) : (t.retrieve i cin strResp).Dated := by
  rcases t.retrieve_cases i cin strResp with ⟨-, heq⟩ | ⟨-, heq⟩ | ⟨con, -, heq⟩
  · rw [heq]
    exact h.moved (t.fewer_catchExp i)
  · rw [heq]
    exact h.moved (t.fewer_set i (by simp))
  · rw [heq]
    exact h.write i hcin

theorem Settled.retrieve {t : Polling} (h : t.Settled) (i : ℕ) {cin : ℕ} {strResp : Text}
    (hmem : .response cin strResp ∈ t.pollers) : (t.retrieve i cin strResp).Settled := by
  rcases t.retrieve_cases i cin strResp with ⟨-, heq⟩ | ⟨-, heq⟩ | ⟨con, hlight, heq⟩
  · rw [heq]
    exact h.moved (t.fewer_catchExp i)
  · rw [heq]
    exact h.moved (t.fewer_set i (by simp))
  · rw [heq]
    exact h.write i ⟨strResp, hmem, by rw [hlight]; exact Option.some_ne_none con⟩

theorem Dated.step {t : Polling} (h : t.Dated) (e : PollingEvent) : (t.step e).Dated := by
  rcases t.step_cases e with heq | ⟨body, -, heq⟩ | ⟨i, body, -, -, hlast, heq⟩ |
    ⟨i, cin, strResp, -, hi, heq⟩ | ⟨i, pc, -, -, -, heq⟩ | ⟨i, -, -, heq⟩
  · rw [heq]
    exact h
  · rw [heq]
    exact h.create body
  · rw [heq]
    exact h.handle i hlast
  · rw [heq]
    exact h.retrieve i (h.held _ _ (List.mem_of_getElem? hi)) strResp
  · rw [heq]
    exact h.moved (t.fewer_catchExp i)
  · rw [heq]
    exact h.moved (t.fewer_set i (by simp))

theorem Settled.step {t : Polling} (h : t.Settled) (hd : t.Dated) {e : PollingEvent}
    (htimely : t.Timely e) : (t.step e).Settled := by
  rcases t.step_cases e with heq | ⟨body, -, heq⟩ | ⟨i, body, rfl, hi, hlast, heq⟩ |
    ⟨i, cin, strResp, -, hi, heq⟩ | ⟨i, pc, -, -, -, heq⟩ | ⟨i, -, -, heq⟩
  · rw [heq]
    exact h
  · rw [heq]
    exact ⟨h.order, h.above, h.same⟩
  · rw [heq]
    exact h.handle hd hi hlast htimely
  · rw [heq]
    exact h.retrieve i (List.mem_of_getElem? hi)
  · rw [heq]
    exact h.moved (t.fewer_catchExp i)
  · rw [heq]
    exact h.moved (t.fewer_set i (by simp))

/-! ## An older answer under way -/

theorem step_handle {t : Polling} {i : ℕ} {body : Text} (hi : t.pollers[i]? = some .request)
    (hlast : t.cins.getLast? = some body) :
    t.step (.handle i)
      = { t with pollers := t.pollers.set i (.response (t.cins.length - 1) body) } := by
  simp only [step, hi, hlast]

/-- An answer that leads to a value is written when it is read. -/
theorem step_read {t : Polling} {i cin : ℕ} {strResp con : Text}
    (hi : t.pollers[i]? = some (.response cin strResp)) (hcon : light strResp = some con) :
    t.step (.read i) = t.write i ⟨con, cin⟩ := by
  have hstep : t.step (.read i) = t.retrieve i cin strResp := by
    simp only [step, hi]
  rw [hstep]
  rcases t.retrieve_cases i cin strResp with ⟨hnone, -⟩ | ⟨hnone, -⟩ | ⟨con', hsome, heq⟩
  · exact absurd (hcon.symm.trans hnone) (Option.some_ne_none con)
  · exact absurd (hcon.symm.trans hnone) (Option.some_ne_none con)
  · rw [heq, Option.some.inj (hcon.symm.trans hsome)]

/-- **It can be read last.** After a request has been handled while an older answer was under way,
there are two answers whose values are written in the wrong order if they are read so. -/
theorem goes_backwards_of_not_timely {t : Polling} {e : PollingEvent} (h : ¬ t.Timely e) :
    ∃ i j, ¬ (((t.step e).step (.read i)).step (.read j)).InOrder := by
  cases e with
  | handle i =>
    unfold Timely at h
    push Not at h
    obtain ⟨body, hi, hlast, hbody, cin, ⟨strResp, hmem, hlight⟩, hlt⟩ := h
    obtain ⟨j, hj⟩ := List.getElem?_of_mem hmem
    obtain ⟨con, hcon⟩ := Option.ne_none_iff_exists'.mp hbody
    obtain ⟨con', hcon'⟩ := Option.ne_none_iff_exists'.mp hlight
    have hne : i ≠ j := by
      rintro rfl
      exact absurd (hi.symm.trans hj) (by simp)
    obtain ⟨hlen, -⟩ := List.getElem?_eq_some_iff.mp hi
    have hfirst : (t.step (.handle i)).step (.read i) = write (t.step (.handle i)) i
        ⟨con, t.cins.length - 1⟩ := by
      rw [step_handle hi hlast]
      exact step_read (List.getElem?_set_self hlen) hcon
    have hlater : (write (t.step (.handle i)) i ⟨con, t.cins.length - 1⟩).pollers[j]?
        = some (.response cin strResp) := by
      rw [step_handle hi hlast]
      change ((t.pollers.set i _).set i _)[j]? = _
      rw [List.getElem?_set_ne hne, List.getElem?_set_ne hne, hj]
    refine ⟨i, j, ?_⟩
    rw [hfirst, step_read hlater hcon', step_handle hi hlast]
    intro horder
    have hpair : [t.cins.length - 1, cin].Pairwise (· ≤ ·) := by
      refine List.Pairwise.sublist ?_ horder
      change List.Sublist _ (((t.written ++ [_]) ++ [_]).map Light.cin)
      rw [List.append_assoc, List.map_append]
      exact List.sublist_append_right _ _
    have hle := List.rel_of_pairwise_cons hpair (List.mem_singleton_self cin)
    omega
  | _ => exact absurd trivial h

/-! ## How many pollers there are -/

/-- The number of live pollers. -/
def alive (t : Polling) : ℕ := t.pollers.countP NaviPc.alive

@[simp] theorem alive_start (t : Polling) : t.start.alive = t.alive + 1 := by
  simp [alive, start, NaviPc.alive]

theorem alive_catchExp {t : Polling} {i : ℕ} {pc : NaviPc} (hi : t.pollers[i]? = some pc)
    (h : pc.alive = true) : (t.catchExp i).alive = t.alive := by
  unfold catchExp
  rw [alive_start]
  exact countP_set NaviPc.alive hi h

/-- No event changes how many pollers are alive. -/
theorem alive_step (t : Polling) (e : PollingEvent) : (t.step e).alive = t.alive := by
  rcases t.step_cases e with heq | ⟨body, -, heq⟩ | ⟨i, body, -, hi, -, heq⟩ |
    ⟨i, cin, strResp, -, hi, heq⟩ | ⟨i, pc, -, hi, hpc, heq⟩ | ⟨i, -, hi, heq⟩
  · rw [heq]
  · rw [heq]
    rfl
  · rw [heq]
    exact Nat.succ_injective (countP_set NaviPc.alive hi rfl)
  · rw [heq]
    rcases t.retrieve_cases i cin strResp with ⟨-, heq⟩ | ⟨-, heq⟩ | ⟨con, -, heq⟩
    · rw [heq]
      exact alive_catchExp hi rfl
    · rw [heq]
      exact Nat.succ_injective (countP_set NaviPc.alive hi rfl)
    · rw [heq]
      exact Nat.succ_injective (countP_set NaviPc.alive hi rfl)
  · rw [heq]
    exact alive_catchExp hi hpc
  · rw [heq]
    exact Nat.succ_injective (countP_set NaviPc.alive hi rfl)

/-- With one poller no answer is under way when its request is handled. -/
theorem timely_of_alive {t : Polling} (halive : t.alive ≤ 1) (e : PollingEvent) : t.Timely e := by
  cases e with
  | handle i =>
    rintro body hi - - cin ⟨strResp, hmem, -⟩
    exfalso
    have hzero : (t.pollers.set i .failed).countP NaviPc.alive = 0 := by
      have hset : (t.pollers.set i .failed).countP NaviPc.alive + 1 = t.alive + 0 :=
        countP_set NaviPc.alive hi rfl
      omega
    obtain ⟨j, hj⟩ := List.getElem?_of_mem hmem
    have hne : i ≠ j := by
      rintro rfl
      exact absurd (hi.symm.trans hj) (by simp)
    have hother : (t.pollers.set i .failed)[j]? = some (.response cin strResp) := by
      rw [List.getElem?_set_ne hne, hj]
    exact List.countP_eq_zero.mp hzero _ (List.mem_of_getElem? hother) rfl
  | _ => trivial

end Polling

/-! ## The activity -/

/-- The polls of the two sides, over all openings of the activity. -/
abbrev Navi := Side → Polling

inductive NaviEvent where
  | onCreate
  | poll (side : Side) (e : PollingEvent)
  deriving DecidableEq, Repr

namespace Navi

def init : Navi := fun _ => .init

def step (t : Navi) : NaviEvent → Navi
  | .onCreate => fun side => (t side).start
  | .poll side e => Function.update t side ((t side).step e)

/-- No request of this side is handled while an older answer is under way. -/
def Timely (side : Side) (t : Navi) : NaviEvent → Prop
  | .onCreate => True
  | .poll side' e => side' = side → (t side).Timely e

/-- What an event is for one side. -/
theorem step_cases (t : Navi) (e : NaviEvent) (side : Side) :
    (e = .onCreate ∧ step t e side = (t side).start) ∨
      (∃ e', e = .poll side e' ∧ step t e side = (t side).step e') ∨
      (e ≠ .onCreate ∧ step t e side = t side ∧ Timely side t e) := by
  cases e with
  | onCreate => exact Or.inl ⟨rfl, rfl⟩
  | poll side' e' =>
    by_cases hside : side' = side
    · subst hside
      exact Or.inr (Or.inl ⟨e', rfl, Function.update_self ..⟩)
    · refine Or.inr (Or.inr ⟨by simp, Function.update_of_ne (Ne.symm hside) .., ?_⟩)
      exact fun h => absurd h hside

theorem dated_step {t : Navi} {side : Side} (h : (t side).Dated) (e : NaviEvent) :
    (step t e side).Dated := by
  rcases step_cases t e side with ⟨-, hstep⟩ | ⟨e', -, hstep⟩ | ⟨-, hstep, -⟩
  · rw [hstep]
    exact h.moved (Polling.fewer_start _)
  · rw [hstep]
    exact h.step e'
  · rw [hstep]
    exact h

theorem settled_step {t : Navi} {side : Side} (h : (t side).Settled) (hd : (t side).Dated)
    {e : NaviEvent} (htimely : Timely side t e) : (step t e side).Settled := by
  rcases step_cases t e side with ⟨-, hstep⟩ | ⟨e', rfl, hstep⟩ | ⟨-, hstep, -⟩
  · rw [hstep]
    exact h.moved (Polling.fewer_start _)
  · rw [hstep]
    exact h.step hd (htimely rfl)
  · rw [hstep]
    exact h

/-- There are as many live pollers as there have been openings. -/
theorem alive_run (events : List NaviEvent) (side : Side) :
    (run step init events side).alive = events.count .onCreate := by
  induction events using List.reverseRecOn with
  | nil => rfl
  | append_singleton events e ih =>
    rw [run_concat, List.count_append, ← ih]
    rcases step_cases (run step init events) e side with
      ⟨rfl, hstep⟩ | ⟨e', rfl, hstep⟩ | ⟨hne, hstep, -⟩
    · rw [hstep, Polling.alive_start]
      rfl
    · rw [hstep, Polling.alive_step]
      rfl
    · rw [hstep, List.count_singleton, if_neg (by simpa using hne), Nat.add_zero]

theorem dated_run (events : List NaviEvent) (side : Side) :
    (run step init events side).Dated := by
  have hstep : ∀ (t : Navi) e, (t side).Dated → (step t e side).Dated :=
    fun t e h => dated_step h e
  exact invariant hstep Polling.dated_init events

/-- With one opening at most every request is handled in time. -/
theorem timely_run {events : List NaviEvent} (h : events.count .onCreate ≤ 1) (side : Side) :
    Steps step (Timely side) init events := by
  induction events using List.reverseRecOn with
  | nil => trivial
  | append_singleton events e ih =>
    rw [List.count_append] at h
    rw [steps_concat]
    refine ⟨ih (by omega), ?_⟩
    cases e with
    | onCreate => trivial
    | poll side' e' =>
      intro _
      apply Polling.timely_of_alive
      rw [alive_run]
      omega

/-- The `i`-th poller of a side reads its answer. -/
def read (side : Side) (i : ℕ) : NaviEvent := .poll side (.read i)

theorem step_read (t : Navi) (side : Side) (i : ℕ) :
    step t (read side i) side = (t side).step (.read i) :=
  Function.update_self ..

/-- A settled side stays in order however its answers are read. -/
theorem inOrder_reads {t : Navi} {side : Side} (h : (t side).Settled) (hd : (t side).Dated)
    (reads : List ℕ) : (run step t (reads.map (read side)) side).InOrder := by
  induction reads generalizing t with
  | nil => exact h.order
  | cons i reads ih =>
    rw [List.map_cons, run_cons]
    exact ih (settled_step h hd fun _ => trivial) (dated_step hd _)

/-- **The lights do not go backwards.** On either side the values written are those of instances in
the order of their creation, all along a run and in whatever order the answers are read that are
under way, exactly if no request of the side is handled while an older answer is under way. If the
activity is opened once at most, that is always so. -/
theorem light_iff (events : List NaviEvent) (side : Side) :
    ((∀ pre, pre <+: events → ∀ reads : List ℕ,
        (run step (run step init pre) (reads.map (read side)) side).InOrder) ↔
      Steps step (Timely side) init events) ∧
    (events.count .onCreate ≤ 1 → Steps step (Timely side) init events) := by
  refine ⟨?_, fun h => timely_run h side⟩
  have hgood : ∀ (t : Navi) e, ((t side).Settled ∧ (t side).Dated) → Timely side t e →
      ((step t e side).Settled ∧ (step t e side).Dated) :=
    fun t e h htimely => ⟨settled_step h.1 h.2 htimely, dated_step h.2 e⟩
  have hbad : ∀ (t : Navi) e, ((t side).Settled ∧ (t side).Dated) → ¬ Timely side t e →
      ¬ ∀ reads : List ℕ, (run step (step t e) (reads.map (read side)) side).InOrder := by
    intro t e _ hnot hreads
    rcases step_cases t e side with ⟨rfl, -⟩ | ⟨e', rfl, hstep⟩ | ⟨-, -, htimely⟩
    · exact hnot trivial
    · have hside : ¬ (t side).Timely e' := fun htimely => hnot fun _ => htimely
      obtain ⟨i, j, hback⟩ := Polling.goes_backwards_of_not_timely hside
      have horder := hreads [i, j]
      rw [List.map_cons, List.map_cons, List.map_nil, run_cons, run_cons, run_nil, step_read,
        step_read, hstep] at horder
      exact hback horder
    · exact hnot htimely
  exact forall_prefix_iff_steps (C := Timely side) hgood
    (fun t h reads => inOrder_reads h.1 h.2 reads) hbad
    ⟨Polling.settled_init, Polling.dated_init⟩ events

/-- The activity is opened twice; the first poller is answered `0` before `1` is created, and
reads its answer after the second one has written the `1`. -/
theorem goes_backwards :
    ¬ (run step init
      [.onCreate, .onCreate, .poll .left (.create (Maps.body ['0'])), .poll .left (.handle 0),
        .poll .left (.create (Maps.body ['1'])), .poll .left (.handle 1),
        .poll .left (.read 1), .poll .left (.read 0)] .left).InOrder := by
  decide +kernel

end Navi

end SmartBike.App
