/-
What the set-up of the gateway leaves on the server.

The server is not part of the repository. It is taken as a `Cse`: how it handles a request,
which resources it holds, and two things it promises, that a creation it answers with a
status the gateway goes on with leaves the resource there, and that a resource goes away by
its own deletion only.

Each request is handled by the server at some time and answered at some later time. As long
as each tick's requests are answered or have failed before the next tick (`Prompt`), every
answer counts for what it is, so a gateway that serves has its AE, its containers and its
subscriptions (`resources_exist`), and if the server goes along, it does so after five ticks
(`setup_completes`).
-/
import SmartBike.Gateway.Setup
import SmartBike.Lib.Tally

set_option autoImplicit false

open Runs

namespace SmartBike.Gateway

/-! ## Resources -/

namespace AdnRequest

/-- The path of the resource a request creates. -/
def creates : AdnRequest → Option Text
  | .crtae parent_path appname _ => some (parent_path ++ '/' :: appname)
  | .crtct parent_path ctname => some (parent_path ++ '/' :: ctname)
  | .crtsub parent_path subname _ => some (parent_path ++ '/' :: subname)
  | .rtvae _ => none
  | .delsub _ => none

/-- The path of the resource it deletes. -/
def deletes : AdnRequest → Option Text
  | .delsub path => some path
  | _ => none

/-- A status the gateway goes on with. -/
def Good (rsc : Option ℕ) : AdnRequest → Prop
  | .crtae _ _ _ => Created rsc
  | .rtvae _ => rsc = some 2000
  | .crtct _ _ => Created rsc
  | .delsub _ => Deleted rsc
  | .crtsub _ _ _ => Created rsc

instance (rsc : Option ℕ) : DecidablePred (Good rsc)
  | .crtae _ _ _ => inferInstanceAs (Decidable (Created rsc))
  | .rtvae _ => inferInstanceAs (Decidable (rsc = some 2000))
  | .crtct _ _ => inferInstanceAs (Decidable (Created rsc))
  | .delsub _ => inferInstanceAs (Decidable (Deleted rsc))
  | .crtsub _ _ _ => inferInstanceAs (Decidable (Created rsc))

end AdnRequest

/-- A body that names an AE. -/
def AeBody.Names : AeBody → Prop
  | .ae _ => True
  | _ => False

instance : DecidablePred AeBody.Names
  | .error => isFalse id
  | .other => isFalse id
  | .ae _ => isTrue trivial

namespace Conf

def ae_path (c : Conf) : Text := '/' :: c.usecbname ++ '/' :: c.useappname

def container_path (c : Conf) (ct : Container) : Text :=
  '/' :: (c.usecbname ++ ct.parentpath) ++ '/' :: ct.ctname

def subscription_path (c : Conf) (s : Subscription) : Option Text :=
  s.subname.map fun subname => '/' :: (c.usecbname ++ s.parentpath) ++ '/' :: subname

/-- No subscription has the path of the AE or of a container. -/
def Apart (c : Conf) : Prop :=
  ∀ s ∈ c.usesubname, c.subscription_path s ≠ some c.ae_path ∧
    ∀ ct ∈ c.usectname, c.subscription_path s ≠ some (c.container_path ct)

theorem creates_crtct (c : Conf) (ct : Container) :
    (c.crtct ct).creates = some (c.container_path ct) := rfl

theorem creates_crtsub (c : Conf) (s : Subscription) :
    (c.crtsub s).bind AdnRequest.creates = c.subscription_path s := by
  unfold crtsub subscription_path
  cases s.subname with
  | none => rfl
  | some subname => rfl

theorem deletes_delsub (c : Conf) (s : Subscription) :
    (c.delsub s).bind AdnRequest.deletes = c.subscription_path s := by
  unfold delsub subscription_path
  cases s.subname with
  | none => rfl
  | some subname => simp [AdnRequest.deletes]

theorem subscription_path_autoset (c : Conf) (s : Subscription) :
    c.subscription_path (c.autoset s) = c.subscription_path s := by
  unfold autoset
  split
  · split_ifs
    · rfl
    · rfl
  · rfl

end Conf

/-- The server: its states, how it handles a request, and what it holds. -/
structure Cse (σ : Type*) where
  handle : σ → AdnRequest → σ × Option ℕ × AeBody
  Holds : σ → Text → Prop
  created : ∀ s r p, r.creates = some p → Created (handle s r).2.1 → Holds (handle s r).1 p
  kept : ∀ s r p, r.deletes ≠ some p → Holds s p → Holds (handle s r).1 p

/-- A server that keeps the paths of its resources. -/
def listed : Cse (List Text) where
  handle held r :=
    match r.creates, r with
    | some p, _ =>
      if held.any (· = p) then (held, some 4105, .other)
      else (p :: held, some 2001, .ae "S".toList)
    | none, .delsub p =>
      if held.any (· = p) then (held.filter (· ≠ p), some 2002, .other)
      else (held, some 4004, .other)
    | none, _ => (held, some 2000, .ae "S".toList)
  Holds held p := p ∈ held
  created held r p hp hcreated := by
    simp only [hp]
    split_ifs with h
    · simpa using h
    · exact List.mem_cons_self
  kept held r p hp hheld := by
    cases r with
    | crtae | crtct | crtsub =>
      simp only [AdnRequest.creates]
      split_ifs
      · exact hheld
      · exact List.mem_cons_of_mem _ hheld
    | rtvae => exact hheld
    | delsub path =>
      have hne : path ≠ p := fun h => hp (congrArg some h)
      simp only [AdnRequest.creates]
      split_ifs
      · exact List.mem_filter.mpr ⟨hheld, by simpa using hne.symm⟩
      · exact hheld

/-! ## Phases -/

/-- The phases in their order. -/
inductive Follows : ShState → ShState → Prop where
  | conflict : Follows .crtae .rtvae
  | created : Follows .crtae .crtct
  | retrieved : Follows .rtvae .crtct
  | containers : Follows .crtct .delsub
  | deleted : Follows .delsub .crtsub
  | subscribed : Follows .crtsub .crtci

/-- How many phases are left at most. -/
def ShState.left : ShState → ℕ
  | .crtae => 5
  | .rtvae => 4
  | .crtct => 3
  | .delsub => 2
  | .crtsub => 1
  | .crtci => 0

theorem Follows.left_lt {a b : ShState} (h : Follows a b) : b.left < a.left := by
  cases h with
  | conflict | created | retrieved | containers | deleted | subscribed => decide

namespace Setup

variable (c : Conf)

/-- The phases that count answers. -/
def Counting (s : Setup) : Prop :=
  s.sh_state = .crtct ∨ s.sh_state = .delsub ∨ s.sh_state = .crtsub

instance (s : Setup) : Decidable s.Counting := inferInstanceAs (Decidable (_ ∨ _ ∨ _))

/-- The phase of `s` is over, and `s'` is at the beginning of one that follows. -/
structure Over (s s' : Setup) : Prop where
  follows : Follows s.sh_state s'.sh_state
  crashed : s'.crashed = s.crashed
  usesubname : s'.sh_state ≠ .crtci → s'.usesubname = s.usesubname
  listening : s'.sh_state ≠ .crtci → s'.listening = s.listening

theorem connect_over {s s₁ : Setup} (hstate : s.sh_state = .crtsub)
    (hcrashed : s₁.crashed = s.crashed) (hlistening : s₁.listening = s.listening) :
    (connect c s₁).crashed = true ∧ s.listening = true ∨ Over s (connect c s₁) := by
  obtain ⟨hcrtci, -, -, -, hcrash⟩ := connect_frame c s₁
  rw [hlistening, hcrashed] at hcrash
  by_cases hl : s.listening = true
  · exact Or.inl ⟨by rw [hcrash, hl, Bool.or_true], hl⟩
  · rw [Bool.not_eq_true] at hl
    refine Or.inr ⟨?_, by rw [hcrash, hl, Bool.or_false], fun h => absurd hcrtci h,
      fun h => absurd hcrtci h⟩
    rw [hstate, hcrtci]
    exact .subscribed

/-- What a tick without requests does. -/
theorem interval_nil {s : Setup} (h : requests c s = []) (generated : Text) :
    (s.sh_state = .crtci ∧ interval c s generated = s) ∨
      (interval c s generated).crashed = true ∧ s.listening = true ∨
      Over s (interval c s generated) := by
  obtain ⟨sh_state, request_count, return_count, useaeid, usesubname, _⟩ := s
  cases sh_state with
  | crtae => simp [requests] at h
  | rtvae => simp [requests] at h
  | crtct =>
    refine Or.inr (Or.inr ?_)
    dsimp only [interval]
    rw [if_pos h]
    exact ⟨.containers, rfl, fun _ => rfl, fun _ => rfl⟩
  | delsub =>
    refine Or.inr (Or.inr ?_)
    dsimp only [interval]
    rw [if_pos h]
    exact ⟨.deleted, rfl, fun _ => rfl, fun _ => rfl⟩
  | crtsub =>
    refine Or.inr ?_
    dsimp only [interval]
    rw [if_pos h]
    exact connect_over c (s := ⟨.crtsub, request_count, return_count, useaeid, usesubname, _, _, _, _⟩)
      rfl rfl rfl
  | crtci => exact Or.inl ⟨rfl, rfl⟩

/-- What a tick with requests does: it counts them. -/
theorem interval_requests {s : Setup} (h : requests c s ≠ []) (generated : Text) :
    (interval c s generated).sh_state = s.sh_state ∧
      (interval c s generated).crashed = s.crashed ∧
      (interval c s generated).usesubname = s.usesubname ∧
      (interval c s generated).listening = s.listening ∧
      (s.Counting → (interval c s generated).return_count = 0 ∧
        (interval c s generated).request_count = (requests c s).length) := by
  obtain ⟨sh_state, request_count, return_count, useaeid, usesubname, _⟩ := s
  cases sh_state with
  | crtae => exact ⟨rfl, rfl, rfl, rfl, by simp [Counting]⟩
  | rtvae =>
    dsimp only [interval]
    split_ifs
    · exact ⟨rfl, rfl, rfl, rfl, by simp [Counting]⟩
    · exact ⟨rfl, rfl, rfl, rfl, by simp [Counting]⟩
  | crtct =>
    dsimp only [interval]
    rw [if_neg h]
    exact ⟨rfl, rfl, rfl, rfl, fun _ => ⟨rfl, rfl⟩⟩
  | delsub =>
    dsimp only [interval]
    rw [if_neg h]
    exact ⟨rfl, rfl, rfl, rfl, fun _ => ⟨rfl, rfl⟩⟩
  | crtsub =>
    dsimp only [interval]
    rw [if_neg h]
    exact ⟨rfl, rfl, rfl, rfl, fun _ => ⟨rfl, rfl⟩⟩
  | crtci => simp [requests] at h

theorem ae_response_action_over {s : Setup} (h : Follows s.sh_state .crtct) (res_body : AeBody) :
    ((ae_response_action c s res_body).crashed = true ∧ ¬ res_body.Names) ∨
      Over s (ae_response_action c s res_body) := by
  cases res_body with
  | error =>
    unfold ae_response_action
    cases c.usebodytype with
    | xml => exact Or.inr ⟨h, rfl, fun _ => rfl, fun _ => rfl⟩
    | json => exact Or.inl ⟨rfl, id⟩
  | other => exact Or.inl ⟨rfl, id⟩
  | ae aei => exact Or.inr ⟨h, rfl, fun _ => rfl, fun _ => rfl⟩

/-- The phase is over, or the process has ended: the body names no AE, or the scripts'
server is open already. -/
def Ends (s s' : Setup) (rsc : Option ℕ) (res_body : AeBody) : Prop :=
  (s'.crashed = true ∧ (¬ s.Counting ∧ rsc ≠ some 4105 ∧ ¬ res_body.Names ∨ s.listening = true)) ∨
    Over s s'

/-- What the answer to a request of the current phase does, if the gateway goes on with its
status: it is one of several, or the last one. -/
def GoesOn (s s' : Setup) (rsc : Option ℕ) (res_body : AeBody) : Prop :=
  (s.Counting ∧ s.return_count + 1 ≠ s.request_count ∧
    s' = { s with return_count := s.return_count + 1 }) ∨
  ((s.Counting → s.return_count + 1 = s.request_count) ∧ Ends s s' rsc res_body)

theorem goesOn_counted {s : Setup} (hs : s.Counting) {next : Setup → Setup} (rsc : Option ℕ)
    (res_body : AeBody)
    (hnext : s.return_count + 1 = s.request_count →
      (next { s with return_count := s.return_count + 1 }).crashed = true ∧ s.listening = true ∨
        Over s (next { s with return_count := s.return_count + 1 })) :
    GoesOn s (s.counted next) rsc res_body := by
  unfold counted
  dsimp only
  split_ifs with hlast
  · rcases hnext hlast with ⟨hcrashed, hlistening⟩ | hover
    · exact Or.inr ⟨fun _ => hlast, Or.inl ⟨hcrashed, Or.inr hlistening⟩⟩
    · exact Or.inr ⟨fun _ => hlast, Or.inr hover⟩
  · exact Or.inl ⟨hs, hlast, rfl⟩

/-- **What the answer to a request of the current phase does.** -/
theorem callback_current {s : Setup} {r : AdnRequest} (hr : r ∈ requests c s) (rsc : Option ℕ)
    (res_body : AeBody) :
    (¬ r.Good rsc ∧ callback c s r rsc res_body = s) ∨
      (r.Good rsc ∧ GoesOn s (callback c s r rsc res_body) rsc res_body) := by
  unfold requests at hr
  cases hstate : s.sh_state with
  | crtae =>
    rw [hstate] at hr
    obtain rfl := List.mem_singleton.mp hr
    have hcounting : ¬ s.Counting := by simp [Counting, hstate]
    unfold callback Conf.crtae AdnRequest.Good Created
    dsimp only
    split_ifs with hok hconflict
    · refine Or.inr ⟨hok.elim Or.inl fun h => Or.inr (Or.inl h), Or.inr ⟨fun h => absurd h hcounting, ?_⟩⟩
      have hfollows : Follows s.sh_state .crtct := by
        rw [hstate]
        exact .created
      have hconflict : rsc ≠ some 4105 := by
        rcases hok with rfl | rfl
        · simp
        · simp
      rcases ae_response_action_over c hfollows res_body with ⟨hcrashed, hbody⟩ | hover
      · exact Or.inl ⟨hcrashed, Or.inl ⟨hcounting, hconflict, hbody⟩⟩
      · exact Or.inr hover
    · refine Or.inr ⟨Or.inr (Or.inr hconflict), Or.inr ⟨fun h => absurd h hcounting, Or.inr ?_⟩⟩
      refine ⟨?_, rfl, fun _ => rfl, fun _ => rfl⟩
      rw [hstate]
      exact .conflict
    · refine Or.inl ⟨?_, rfl⟩
      rintro (h | h | h)
      · exact hok (Or.inl h)
      · exact hok (Or.inr h)
      · exact hconflict h
  | rtvae =>
    rw [hstate] at hr
    obtain rfl := List.mem_singleton.mp hr
    have hcounting : ¬ s.Counting := by simp [Counting, hstate]
    unfold callback Conf.rtvae AdnRequest.Good
    dsimp only
    split_ifs with hok
    · refine Or.inr ⟨hok, Or.inr ⟨fun h => absurd h hcounting, ?_⟩⟩
      have hfollows : Follows s.sh_state .crtct := by
        rw [hstate]
        exact .retrieved
      rcases ae_response_action_over c hfollows res_body with ⟨hcrashed, hbody⟩ | hover
      · exact Or.inl ⟨hcrashed, Or.inl ⟨hcounting, by simp [hok], hbody⟩⟩
      · exact Or.inr hover
    · exact Or.inl ⟨hok, rfl⟩
  | crtct =>
    rw [hstate] at hr
    obtain ⟨ct, -, rfl⟩ := List.mem_map.mp hr
    unfold callback Conf.crtct AdnRequest.Good
    dsimp only
    split_ifs with hok
    · refine Or.inr ⟨hok, goesOn_counted (Or.inl hstate) _ res_body fun _ => Or.inr ?_⟩
      refine ⟨?_, rfl, fun _ => rfl, fun _ => rfl⟩
      rw [hstate]
      exact .containers
    · exact Or.inl ⟨hok, rfl⟩
  | delsub =>
    rw [hstate] at hr
    obtain ⟨sub, -, hsub⟩ := List.mem_filterMap.mp hr
    obtain ⟨subname, -, rfl⟩ := Option.map_eq_some_iff.mp hsub
    unfold callback AdnRequest.Good
    dsimp only
    split_ifs with hok
    · refine Or.inr ⟨hok, goesOn_counted (Or.inr (Or.inl hstate)) _ res_body fun _ => Or.inr ?_⟩
      refine ⟨?_, rfl, fun _ => rfl, fun _ => rfl⟩
      rw [hstate]
      exact .deleted
    · exact Or.inl ⟨hok, rfl⟩
  | crtsub =>
    rw [hstate] at hr
    obtain ⟨sub, -, hsub⟩ := List.mem_filterMap.mp hr
    obtain ⟨subname, -, rfl⟩ := Option.map_eq_some_iff.mp hsub
    unfold callback AdnRequest.Good
    dsimp only
    split_ifs with hok
    · refine Or.inr ⟨hok, goesOn_counted (Or.inr (Or.inr hstate)) _ res_body fun _ => ?_⟩
      exact connect_over c hstate rfl rfl
    · exact Or.inl ⟨hok, rfl⟩
  | crtci =>
    rw [hstate] at hr
    exact absurd hr List.not_mem_nil

end Setup

/-! ## The gateway and the server -/

/-- The set-up, the state of the server, and the requests made and not answered, with the
answers that are on their way back. -/
structure Startup (σ : Type*) where
  setup : Setup
  cse : σ
  flight : List (AdnRequest × Option (Option ℕ × AeBody))

inductive StartupEvent where
  | interval (generated : Text)
  -- the server handles the request at index `i`
  | handle (i : ℕ)
  -- its callback is called
  | answer (i : ℕ)
  -- it fails: the callback is never called
  | error (i : ℕ)
  -- the answer to a content instance
  | respond (rsc : Option ℕ)
  deriving DecidableEq, Repr

namespace Startup

open Setup

variable {σ : Type*} (S : Cse σ) (c : Conf)

def init (cse : σ) : Startup σ := ⟨.init c, cse, []⟩

/-- The requests a tick makes, if the process is alive. -/
def made (w : Startup σ) : List AdnRequest := if w.setup.crashed then [] else requests c w.setup

def step (w : Startup σ) : StartupEvent → Startup σ
  | .interval generated =>
    { w with
      setup := w.setup.step c (.interval generated)
      flight := w.flight ++ (w.made c).map fun r => (r, none) }
  | .handle i =>
    match w.flight[i]? with
    | some (r, none) =>
      { w with
        cse := (S.handle w.cse r).1
        flight := w.flight.set i (r, some (S.handle w.cse r).2) }
    | _ => w
  | .answer i =>
    match w.flight[i]? with
    | some (r, some (rsc, res_body)) =>
      { w with
        setup := w.setup.step c (.callback r rsc res_body)
        flight := w.flight.eraseIdx i }
    | _ => w
  | .error i => { w with flight := w.flight.eraseIdx i }
  -- instances are made of what the scripts write, so their server is open
  | .respond rsc =>
    if w.setup.listening then { w with setup := w.setup.step c (.respond rsc) } else w

/-- A tick comes when the requests of the one before have been answered or have failed. -/
def Prompt (w : Startup σ) : StartupEvent → Prop
  | .interval _ => w.flight = []
  | _ => True

instance (w : Startup σ) : DecidablePred (Prompt w)
  | .interval _ => decidable_of_iff (w.flight.isEmpty = true) List.isEmpty_iff
  | .handle _ | .answer _ | .error _ | .respond _ => isTrue trivial

/-- What the server has to hold in a phase: the AE once it is known to exist, the containers
once they have been created, the subscriptions in the end. -/
def Required (sh_state : ShState) (p : Text) : Prop :=
  (sh_state ≠ .crtae ∧ p = c.ae_path) ∨
  ((sh_state = .delsub ∨ sh_state = .crtsub ∨ sh_state = .crtci) ∧
    ∃ ct ∈ c.usectname, p = c.container_path ct) ∨
  (sh_state = .crtci ∧ ∃ s ∈ c.usesubname, c.subscription_path s = some p)

/-- The subscriptions are those of the configuration. -/
def Configured (s : Setup) : Prop :=
  s.sh_state ≠ .crtci → s.usesubname = c.usesubname.map c.autoset

/-- **What a phase adds** is what its requests create. -/
theorem required_over {s s' : Setup} (h : Over s s') (hs : Configured c s) {H : Text → Prop}
    (hbefore : ∀ p, Required c s.sh_state p → H p)
    (hmade : ∀ r ∈ requests c s, ∀ p, r.creates = some p → H p) :
    ∀ p, Required c s'.sh_state p → H p := by
  intro p hp
  have hfollows := h.follows
  unfold requests at hmade
  generalize s'.sh_state = next at hp hfollows
  generalize hstate : s.sh_state = phase at hfollows hbefore hmade
  cases hfollows with
  | conflict =>
    rcases hp with ⟨-, rfl⟩ | ⟨h, -⟩ | ⟨h, -⟩
    · exact hmade c.crtae List.mem_cons_self _ rfl
    · simp at h
    · simp at h
  | created =>
    rcases hp with ⟨-, rfl⟩ | ⟨h, -⟩ | ⟨h, -⟩
    · exact hmade c.crtae List.mem_cons_self _ rfl
    · simp at h
    · simp at h
  | retrieved =>
    rcases hp with ⟨-, rfl⟩ | ⟨h, -⟩ | ⟨h, -⟩
    · exact hbefore _ (Or.inl ⟨by simp, rfl⟩)
    · simp at h
    · simp at h
  | containers =>
    rcases hp with ⟨-, rfl⟩ | ⟨-, ct, hct, rfl⟩ | ⟨h, -⟩
    · exact hbefore _ (Or.inl ⟨by simp, rfl⟩)
    · exact hmade _ (List.mem_map_of_mem hct) _ (c.creates_crtct ct)
    · simp at h
  | deleted =>
    rcases hp with ⟨-, rfl⟩ | ⟨-, hct⟩ | ⟨h, -⟩
    · exact hbefore _ (Or.inl ⟨by simp, rfl⟩)
    · exact hbefore _ (Or.inr (Or.inl ⟨Or.inl rfl, hct⟩))
    · simp at h
  | subscribed =>
    rcases hp with ⟨-, rfl⟩ | ⟨-, hct⟩ | ⟨-, sub, hsub, hpath⟩
    · exact hbefore _ (Or.inl ⟨by simp, rfl⟩)
    · exact hbefore _ (Or.inr (Or.inl ⟨Or.inr (Or.inl rfl), hct⟩))
    · rw [← c.subscription_path_autoset, ← c.creates_crtsub] at hpath
      obtain ⟨r, hr, hcreates⟩ := Option.bind_eq_some_iff.mp hpath
      refine hmade r (List.mem_filterMap.mpr ⟨c.autoset sub, ?_, hr⟩) p hcreates
      rw [hs (by simp [hstate])]
      exact List.mem_map_of_mem hsub

/-- **No request deletes what its phase requires**, nor what another one of its phase
creates. -/
theorem not_deletes {s : Setup} (hapart : c.Apart) (hs : Configured c s) {r : AdnRequest}
    (hr : r ∈ requests c s) {p : Text}
    (hp : Required c s.sh_state p ∨ ∃ r' ∈ requests c s, r'.creates = some p) :
    r.deletes ≠ some p := by
  intro hdeletes
  unfold requests at hr hp
  generalize hstate : s.sh_state = phase at hr hp
  cases phase with
  | delsub =>
    obtain ⟨sub', hsub', hdelsub⟩ := List.mem_filterMap.mp hr
    have hpath : c.subscription_path sub' = some p := by
      rw [← c.deletes_delsub, hdelsub]
      exact hdeletes
    rw [hs (by simp [hstate])] at hsub'
    obtain ⟨sub, hsub, rfl⟩ := List.mem_map.mp hsub'
    rw [c.subscription_path_autoset] at hpath
    obtain ⟨hae, hct⟩ := hapart sub hsub
    rcases hp with (⟨-, rfl⟩ | ⟨-, ct, hin, rfl⟩ | ⟨h, -⟩) | ⟨r', hr', hcreates⟩
    · exact hae hpath
    · exact hct ct hin hpath
    · simp at h
    · obtain ⟨sub', -, hdelsub'⟩ := List.mem_filterMap.mp hr'
      obtain ⟨subname, -, rfl⟩ := Option.map_eq_some_iff.mp hdelsub'
      simp [AdnRequest.creates] at hcreates
  | crtae =>
    obtain rfl := List.mem_singleton.mp hr
    exact absurd hdeletes (by simp [Conf.crtae, AdnRequest.deletes])
  | rtvae =>
    obtain rfl := List.mem_singleton.mp hr
    exact absurd hdeletes (by simp [Conf.rtvae, AdnRequest.deletes])
  | crtct =>
    obtain ⟨ct, -, rfl⟩ := List.mem_map.mp hr
    exact absurd hdeletes (by simp [Conf.crtct, AdnRequest.deletes])
  | crtsub =>
    obtain ⟨sub, -, hsub⟩ := List.mem_filterMap.mp hr
    obtain ⟨subname, -, rfl⟩ := Option.map_eq_some_iff.mp hsub
    exact absurd hdeletes (by simp [AdnRequest.deletes])
  | crtci => exact absurd hr List.not_mem_nil

/-! ## Rounds -/

/-- What is in flight are requests of the last tick, and what has been counted since has been
created. -/
structure InRound (w : Startup σ) (counted dropped : List AdnRequest) : Prop where
  round : Tally.Round (requests c w.setup) counted dropped (w.flight.map Prod.fst)
  count : w.setup.Counting →
    w.setup.return_count = counted.length ∧ w.setup.request_count = (requests c w.setup).length
  created : ∀ r ∈ counted, ∀ p, r.creates = some p → S.Holds w.cse p

/-- The invariant of a start in which ticks are prompt. -/
structure Sound (w : Startup σ) : Prop where
  configured : Configured c w.setup
  required : ∀ p, Required c w.setup.sh_state p → S.Holds w.cse p
  handled : ∀ r rsc res_body, (r, some (rsc, res_body)) ∈ w.flight → Created rsc →
    ∀ p, r.creates = some p → S.Holds w.cse p
  current : w.flight = [] ∨ ∃ counted dropped, InRound S c w counted dropped

theorem created_of_good {r : AdnRequest} {rsc : Option ℕ} {p : Text} (h : r.Good rsc)
    (hp : r.creates = some p) : Created rsc := by
  cases r with
  | crtae | crtct | crtsub => exact h
  | rtvae => simp [AdnRequest.creates] at hp
  | delsub => simp [AdnRequest.creates] at hp

theorem mem_requests {w : Startup σ} {counted dropped : List AdnRequest}
    (h : InRound S c w counted dropped) {r : AdnRequest} (hr : r ∈ w.flight.map Prod.fst) :
    r ∈ requests c w.setup :=
  h.round.mem_iff.mp (List.mem_append_right _ hr)

/-- A phase that does not count makes one request. -/
theorem length_requests {s : Setup} (hs : ¬ s.Counting) : (requests c s).length ≤ 1 := by
  unfold requests
  cases hstate : s.sh_state with
  | crtae => exact le_refl 1
  | rtvae => exact le_refl 1
  | crtct => exact absurd (Or.inl hstate) hs
  | delsub => exact absurd (Or.inr (Or.inl hstate)) hs
  | crtsub => exact absurd (Or.inr (Or.inr hstate)) hs
  | crtci => exact Nat.zero_le 1

/-- The requests of a phase, before and after a step that stays in it. -/
theorem requests_congr {s s' : Setup} (hstate : s'.sh_state = s.sh_state)
    (hsubs : s'.usesubname = s.usesubname) : requests c s' = requests c s := by
  unfold requests
  rw [hstate, hsubs]

/-- **What an answer does to a round.** -/
theorem answer_cases {w : Startup σ} (hw : Sound S c w) (halive : w.setup.crashed = false)
    {counted dropped : List AdnRequest} (hround : InRound S c w counted dropped) {i : ℕ}
    {r : AdnRequest} {rsc : Option ℕ} {res_body : AeBody}
    (hi : w.flight[i]? = some (r, some (rsc, res_body))) :
    (¬ r.Good rsc ∧ (w.step S c (.answer i)).setup = w.setup ∧
      InRound S c (w.step S c (.answer i)) counted (dropped ++ [r])) ∨
    (r.Good rsc ∧
      (w.step S c (.answer i)).setup
        = { w.setup with return_count := w.setup.return_count + 1 } ∧
      (w.setup.Counting ∧ w.setup.return_count + 1 ≠ w.setup.request_count) ∧
      InRound S c (w.step S c (.answer i)) (counted ++ [r]) dropped) ∨
    (r.Good rsc ∧ (w.step S c (.answer i)).flight = [] ∧
      (∀ r ∈ requests c w.setup, ∀ p, r.creates = some p → S.Holds w.cse p) ∧
      Ends w.setup (w.step S c (.answer i)).setup rsc res_body) := by
  have hmem : (r, some (rsc, res_body)) ∈ w.flight := List.mem_of_getElem? hi
  have hr : r ∈ requests c w.setup := mem_requests S c hround (List.mem_map_of_mem hmem)
  have hout : (w.flight.map Prod.fst)[i]? = some r := by rw [List.getElem?_map, hi]; rfl
  have hcse : (w.step S c (.answer i)).cse = w.cse := by simp only [step, hi]
  have hflight : (w.step S c (.answer i)).flight = w.flight.eraseIdx i := by simp only [step, hi]
  have hmap : (w.step S c (.answer i)).flight.map Prod.fst
      = (w.flight.map Prod.fst).eraseIdx i := by
    rw [hflight, List.eraseIdx_map]
  have hsetup : (w.step S c (.answer i)).setup = callback c w.setup r rsc res_body := by
    simp only [step, hi]
    exact step_alive c halive _
  -- what has been counted, this answer included
  have hcreated : r.Good rsc → ∀ r' ∈ counted ++ [r], ∀ p, r'.creates = some p →
      S.Holds w.cse p := by
    intro hgood r' hr' p hp
    rcases List.mem_append.mp hr' with hr' | hr'
    · exact hround.created r' hr' p hp
    · rw [List.mem_singleton.mp hr'] at hp
      exact hw.handled r rsc res_body hmem (created_of_good hgood hp) p hp
  rcases callback_current c hr rsc res_body with ⟨hbad, hsame⟩ | ⟨hgood, hgoes⟩
  · refine Or.inl ⟨hbad, hsetup.trans hsame, ?_, ?_, ?_⟩
    · rw [hmap, hsetup, hsame]
      exact hround.round.drop hout
    · rw [hsetup, hsame]
      exact hround.count
    · rw [hcse]
      exact hround.created
  · refine Or.inr ?_
    rcases hgoes with ⟨hcounting, hnot, heq⟩ | ⟨hlast, hends⟩
    · refine Or.inl ⟨hgood, hsetup.trans heq, ⟨hcounting, hnot⟩, ?_, fun _ => ?_, ?_⟩
      · rw [hmap, hsetup, heq]
        exact hround.round.count hout
      · obtain ⟨hreturn, hrequest⟩ := hround.count hcounting
        rw [hsetup, heq, List.length_append, List.length_singleton, ← hreturn]
        exact ⟨rfl, hrequest⟩
      · rw [hcse]
        exact hcreated hgood
    · -- the round is complete
      have hfull : (counted ++ [r]).length = (requests c w.setup).length := by
        by_cases hcounting : w.setup.Counting
        · obtain ⟨hreturn, hrequest⟩ := hround.count hcounting
          rw [List.length_append, List.length_singleton, ← hreturn, ← hrequest, hlast hcounting]
        · have hlength := (hround.round.count hout).length_eq
          have hle := length_requests c hcounting
          rw [List.length_append, List.length_singleton] at hlength ⊢
          omega
      obtain ⟨hperm, hnil⟩ := (hround.round.count hout).complete hfull
      rw [List.eraseIdx_map, List.map_eq_nil_iff, ← hflight] at hnil
      refine Or.inr ⟨hgood, hnil, fun r' hr' => ?_, hsetup ▸ hends⟩
      exact hcreated hgood r' (hperm.mem_iff.mpr hr')

/-! ## Prompt starts -/

theorem Follows.ne_crtci {a b : ShState} (h : Follows a b) : a ≠ .crtci := by
  rintro rfl
  cases h

theorem configured_over {s s' : Setup} (h : Over s s') (hs : Configured c s) : Configured c s' :=
  fun hne => (h.usesubname hne).trans (hs (Follows.ne_crtci h.follows))

/-- A phase is over, and nothing is in flight. -/
theorem Sound.over {w w' : Startup σ} (hw : Sound S c w) (hcse : w'.cse = w.cse)
    (hflight : w'.flight = []) (h : Over w.setup w'.setup)
    (hmade : ∀ r ∈ requests c w.setup, ∀ p, r.creates = some p → S.Holds w.cse p) :
    Sound S c w' where
  configured := configured_over c h hw.configured
  required := by
    rw [hcse]
    exact required_over c h hw.configured hw.required hmade
  handled r rsc res_body hmem := by
    rw [hflight] at hmem
    exact absurd hmem List.not_mem_nil
  current := Or.inl hflight

/-- **A tick with requests starts a round.** -/
theorem interval_round {w : Startup σ} (halive : w.setup.crashed = false)
    (hprompt : w.flight = []) (hmade : requests c w.setup ≠ []) (generated : Text) :
    (w.step S c (.interval generated)).setup.sh_state = w.setup.sh_state ∧
      (w.step S c (.interval generated)).setup.crashed = false ∧
      (w.step S c (.interval generated)).setup.usesubname = w.setup.usesubname ∧
      (w.step S c (.interval generated)).setup.listening = w.setup.listening ∧
      (w.step S c (.interval generated)).flight
        = (requests c w.setup).map (fun r => (r, none)) ∧
      InRound S c (w.step S c (.interval generated)) [] [] := by
  have hsetup : (w.step S c (.interval generated)).setup = interval c w.setup generated :=
    step_alive c halive (.interval generated)
  have hflight : (w.step S c (.interval generated)).flight
      = (requests c w.setup).map fun r => (r, none) := by
    simp only [step, made, hprompt, halive, Bool.false_eq_true, if_false, List.nil_append]
  obtain ⟨hstate, hcrashed, hsubs, hlistening, hcount⟩ := interval_requests c hmade generated
  rw [← hsetup] at hstate hcrashed hsubs hlistening hcount
  have hrequests := requests_congr c hstate hsubs
  refine ⟨hstate, hcrashed.trans halive, hsubs, hlistening, hflight, ?_, ?_, ?_⟩
  · rw [hrequests, hflight, List.map_map]
    simpa [Function.comp_def] using Tally.round_start (requests c w.setup)
  · intro hcounting
    unfold Counting at hcounting
    rw [hstate] at hcounting
    rw [hrequests]
    exact hcount hcounting
  · intro r hr
    exact absurd hr List.not_mem_nil

/-- A tick without requests ends the phase, or the process. -/
theorem interval_no_round {w : Startup σ} (halive : w.setup.crashed = false)
    (hprompt : w.flight = []) (hmade : requests c w.setup = []) (generated : Text) :
    (w.step S c (.interval generated)).flight = [] ∧
      ((w.setup.sh_state = .crtci ∧ (w.step S c (.interval generated)).setup = w.setup) ∨
        (w.step S c (.interval generated)).setup.crashed = true ∧ w.setup.listening = true ∨
        Over w.setup (w.step S c (.interval generated)).setup) := by
  have hsetup : (w.step S c (.interval generated)).setup = interval c w.setup generated :=
    step_alive c halive (.interval generated)
  refine ⟨?_, ?_⟩
  · simp only [step, made, hprompt, halive, hmade, Bool.false_eq_true, if_false, List.map_nil,
      List.append_nil]
  · rw [hsetup]
    exact interval_nil c hmade generated

theorem sound_interval {w : Startup σ} (hw : Sound S c w) (halive : w.setup.crashed = false)
    (hprompt : w.flight = []) (generated : Text)
    (halive' : (w.step S c (.interval generated)).setup.crashed = false) :
    Sound S c (w.step S c (.interval generated)) := by
  by_cases hmade : requests c w.setup = []
  · obtain ⟨hflight, hcases⟩ := interval_no_round S c halive hprompt hmade generated
    have hnone : ∀ r ∈ requests c w.setup, ∀ p, r.creates = some p → S.Holds w.cse p := by
      rw [hmade]
      intro r hr
      exact absurd hr List.not_mem_nil
    rcases hcases with ⟨-, hsame⟩ | ⟨hcrashed, -⟩ | hover
    · refine ⟨?_, ?_, ?_, Or.inl hflight⟩
      · rw [hsame]
        exact hw.configured
      · rw [hsame]
        exact hw.required
      · rw [hflight]
        intro r rsc res_body hmem
        exact absurd hmem List.not_mem_nil
    · rw [hcrashed] at halive'
      exact absurd halive'.symm Bool.false_ne_true
    · exact hw.over S c rfl hflight hover hnone
  · obtain ⟨hstate, -, hsubs, -, hflight, hround⟩ :=
      interval_round S c halive hprompt hmade generated
    refine ⟨?_, ?_, ?_, Or.inr ⟨[], [], hround⟩⟩
    · intro hne
      rw [hstate] at hne
      rw [hsubs]
      exact hw.configured hne
    · rw [hstate]
      exact hw.required
    · intro r rsc res_body hmem
      rw [hflight] at hmem
      obtain ⟨r', -, heq⟩ := List.mem_map.mp hmem
      simp at heq

/-- No request of a phase takes from the server what the phase requires or its requests
create. -/
def Keeps : Prop :=
  ∀ (s : Setup) (cse : σ), Configured c s → ∀ r ∈ requests c s, ∀ p,
    (Required c s.sh_state p ∨ ∃ r' ∈ requests c s, r'.creates = some p) →
    S.Holds cse p → S.Holds (S.handle cse r).1 p

theorem Keeps.of_apart (hapart : c.Apart) : Keeps S c :=
  fun _ _ hs _ hr _ hp hheld => S.kept _ _ _ (not_deletes c hapart hs hr hp) hheld

theorem inRound_handle {w : Startup σ} (hkeeps : Keeps S c) (hs : Configured c w.setup)
    {counted dropped : List AdnRequest} (hround : InRound S c w counted dropped) (i : ℕ) :
    InRound S c (w.step S c (.handle i)) counted dropped := by
  simp only [step]
  split
  · rename_i r hi
    have hr := mem_requests S c hround (List.mem_map_of_mem (List.mem_of_getElem? hi))
    have hmap : (w.flight.set i (r, some (S.handle w.cse r).2)).map Prod.fst
        = w.flight.map Prod.fst := by
      apply List.ext_getElem?
      intro j
      rw [List.map_set, List.getElem?_set]
      split_ifs with hij hlt
      · rw [← hij, List.getElem?_map, hi]
        rfl
      · rw [← hij]
        exact (List.getElem?_eq_none (Nat.not_lt.mp hlt)).symm
      · rfl
    refine ⟨?_, hround.count, ?_⟩
    · change Tally.Round _ _ _ ((w.flight.set i _).map Prod.fst)
      rw [hmap]
      exact hround.round
    · intro r' hr' p hp
      have hin : r' ∈ requests c w.setup :=
        hround.round.mem_iff.mp (List.mem_append_left _ (List.mem_append_left _ hr'))
      exact hkeeps _ _ hs r hr p (Or.inr ⟨r', hin, hp⟩) (hround.created r' hr' p hp)
  · exact hround

/-- **What the server does** leaves what the phase requires, and what its requests have
created. -/
theorem sound_handle {w : Startup σ} (hkeeps : Keeps S c) (hw : Sound S c w) (i : ℕ) :
    Sound S c (w.step S c (.handle i)) := by
  rcases hw.current with hnil | ⟨counted, dropped, hround⟩
  · have hsame : w.step S c (.handle i) = w := by
      simp only [step, hnil, List.getElem?_nil]
    rw [hsame]
    exact hw
  have hround' := inRound_handle S c hkeeps hw.configured hround i
  revert hround'
  simp only [step]
  split
  · rename_i r hi
    intro hround'
    have hr := mem_requests S c hround (List.mem_map_of_mem (List.mem_of_getElem? hi))
    refine ⟨hw.configured, ?_, ?_, Or.inr ⟨counted, dropped, hround'⟩⟩
    · intro p hp
      exact hkeeps _ _ hw.configured r hr p (Or.inl hp) (hw.required p hp)
    · intro r' rsc res_body hmem hcreated p hp
      rcases List.mem_or_eq_of_mem_set hmem with hold | hnew
      · have hin := mem_requests S c hround (List.mem_map_of_mem hold)
        exact hkeeps _ _ hw.configured r hr p (Or.inr ⟨r', hin, hp⟩)
          (hw.handled r' rsc res_body hold hcreated p hp)
      · obtain ⟨rfl, hanswer⟩ := Prod.mk.inj hnew
        have hrsc : rsc = (S.handle w.cse r').2.1 := congrArg Prod.fst (Option.some.inj hanswer)
        rw [hrsc] at hcreated
        exact S.created _ _ _ hp hcreated
  · exact fun _ => hw

theorem sound_answer {w : Startup σ} (hw : Sound S c w) (halive : w.setup.crashed = false) (i : ℕ)
    (halive' : (w.step S c (.answer i)).setup.crashed = false) :
    Sound S c (w.step S c (.answer i)) := by
  rcases hi : w.flight[i]? with _ | ⟨r, _ | ⟨rsc, res_body⟩⟩
  · simp only [step, hi]
    exact hw
  · simp only [step, hi]
    exact hw
  have hne : w.flight ≠ [] := List.ne_nil_of_mem (List.mem_of_getElem? hi)
  obtain ⟨counted, dropped, hround⟩ := hw.current.resolve_left hne
  have hcse : (w.step S c (.answer i)).cse = w.cse := by simp only [step, hi]
  have hhandled : ∀ r rsc res_body, (r, some (rsc, res_body)) ∈ (w.step S c (.answer i)).flight →
      Created rsc → ∀ p, r.creates = some p → S.Holds (w.step S c (.answer i)).cse p := by
    intro r' rsc' res_body' hmem
    have hflight : (w.step S c (.answer i)).flight = w.flight.eraseIdx i := by
      simp only [step, hi]
    rw [hflight] at hmem
    rw [hcse]
    exact hw.handled r' rsc' res_body' (List.mem_of_mem_eraseIdx hmem)
  rcases answer_cases S c hw halive hround hi with ⟨-, hsame, hround'⟩ | ⟨-, hcount, -, hround'⟩ |
    ⟨-, hnil, hmade, hends⟩
  · refine ⟨?_, ?_, hhandled, Or.inr ⟨_, _, hround'⟩⟩
    · rw [hsame]
      exact hw.configured
    · rw [hsame, hcse]
      exact hw.required
  · refine ⟨?_, ?_, hhandled, Or.inr ⟨_, _, hround'⟩⟩
    · rw [hcount]
      exact hw.configured
    · rw [hcount, hcse]
      exact hw.required
  · rcases hends with ⟨hcrashed, -⟩ | hover
    · rw [hcrashed] at halive'
      exact absurd halive'.symm Bool.false_ne_true
    · exact hw.over S c hcse hnil hover hmade

theorem sound_error {w : Startup σ} (hw : Sound S c w) (i : ℕ) :
    Sound S c (w.step S c (.error i)) where
  configured := hw.configured
  required := hw.required
  handled r rsc res_body hmem := hw.handled r rsc res_body (List.mem_of_mem_eraseIdx hmem)
  current := by
    rcases hw.current with hnil | ⟨counted, dropped, hround⟩
    · left
      simp only [step, hnil, List.eraseIdx_nil]
    · right
      rcases hi : w.flight[i]? with _ | ⟨r, answer⟩
      · have hlen := List.getElem?_eq_none_iff.mp hi
        simp only [step, List.eraseIdx_of_length_le hlen]
        exact ⟨counted, dropped, hround⟩
      · have hout : (w.flight.map Prod.fst)[i]? = some r := by rw [List.getElem?_map, hi]; rfl
        refine ⟨counted, dropped ++ [r], ?_, hround.count, hround.created⟩
        simp only [step]
        rw [← List.eraseIdx_map]
        exact hround.round.drop hout

/-- The set-up makes one step, or none. -/
theorem setup_step (w : Startup σ) (e : StartupEvent) :
    (w.step S c e).setup = w.setup ∨ ∃ e', (w.step S c e).setup = w.setup.step c e' := by
  cases e with
  | interval generated => exact Or.inr ⟨.interval generated, rfl⟩
  | handle i =>
    simp only [step]
    split
    · exact Or.inl rfl
    · exact Or.inl rfl
  | answer i =>
    simp only [step]
    split
    · rename_i r rsc res_body _
      exact Or.inr ⟨.callback r rsc res_body, rfl⟩
    · exact Or.inl rfl
  | error i => exact Or.inl rfl
  | respond rsc =>
    simp only [step]
    split_ifs
    · exact Or.inr ⟨.respond rsc, rfl⟩
    · exact Or.inl rfl

theorem setup_lost_step {w : Startup σ} (h : w.setup.Lost) (e : StartupEvent) :
    (w.step S c e).setup.Lost := by
  rcases setup_step S c w e with heq | ⟨e', heq⟩
  · rw [heq]
    exact h
  · rw [heq]
    exact lost_step c h e'

/-- **The answer to a content instance** leaves the set-up as it is, or ends it. -/
theorem respond_cases {w : Startup σ} (halive : w.setup.crashed = false) (rsc : Option ℕ) :
    w.step S c (.respond rsc) = w ∨
      rsc = some 5000 ∧ (w.step S c (.respond rsc)).setup.Lost := by
  simp only [step]
  split_ifs with hlistening
  · rw [step_alive c halive]
    unfold respond
    dsimp only
    split_ifs with hrsc
    · exact Or.inr ⟨hrsc, Or.inr ⟨hlistening, not_serves_of_ne (by simp)⟩⟩
    · exact Or.inl rfl
  · exact Or.inl rfl

theorem sound_init (cse : σ) : Sound S c (init c cse) where
  configured _ := rfl
  required p hp := by
    rcases hp with ⟨h, -⟩ | ⟨h, -⟩ | ⟨h, -⟩
    · exact absurd rfl h
    · simp [init, Setup.init] at h
    · simp [init, Setup.init] at h
  handled r rsc res_body hmem := absurd hmem List.not_mem_nil
  current := Or.inl rfl

/-- **One prompt step.** -/
theorem sound_step {w : Startup σ} (hkeeps : Keeps S c) (hw : w.setup.Lost ∨ Sound S c w)
    (e : StartupEvent) (hprompt : Prompt w e) :
    (w.step S c e).setup.Lost ∨ Sound S c (w.step S c e) := by
  rcases hw with hlost | hw
  · exact Or.inl (setup_lost_step S c hlost e)
  by_cases hcrashed : w.setup.crashed = true
  · exact Or.inl (setup_lost_step S c (Or.inl hcrashed) e)
  by_cases hcrashed' : (w.step S c e).setup.crashed = true
  · exact Or.inl (Or.inl hcrashed')
  rw [Bool.not_eq_true] at hcrashed hcrashed'
  cases e with
  | interval generated =>
    exact Or.inr (sound_interval S c hw hcrashed hprompt generated hcrashed')
  | handle i => exact Or.inr (sound_handle S c hkeeps hw i)
  | answer i => exact Or.inr (sound_answer S c hw hcrashed i hcrashed')
  | error i => exact Or.inr (sound_error S c hw i)
  | respond rsc =>
    rcases respond_cases S c hcrashed rsc with hsame | ⟨-, hlost⟩
    · rw [hsame]
      exact Or.inr hw
    · exact Or.inl hlost

/-- **A gateway that serves has what it needs.** As long as ticks are prompt, and whatever
the server answers and whichever requests fail, the AE, every container and every named
subscription are on the server when the gateway serves. -/
theorem resources_exist {cse : σ} {es : List StartupEvent} (hapart : c.Apart)
    (hprompt : Steps (step S c) Prompt (init c cse) es)
    (hserves : (run (step S c) (init c cse) es).setup.Serves) {p : Text}
    (hp : p = c.ae_path ∨ (∃ ct ∈ c.usectname, p = c.container_path ct) ∨
      ∃ s ∈ c.usesubname, c.subscription_path s = some p) :
    S.Holds (run (step S c) (init c cse) es).cse p := by
  have hstep : ∀ w e, Setup.Lost w.setup ∨ Sound S c w → Prompt w e →
      (step S c w e).setup.Lost ∨ Sound S c (step S c w e) :=
    fun w e hw he => sound_step S c (.of_apart S c hapart) hw e he
  have hinit : (init c cse).setup.Lost ∨ Sound S c (init c cse) := Or.inr (sound_init S c cse)
  rcases hprompt.invariant hstep hinit with hlost | hsound
  · exact absurd hserves hlost.not_serves
  · refine hsound.required p ?_
    unfold Required
    rw [hserves.1]
    rcases hp with rfl | hct | hsub
    · exact Or.inl ⟨by simp, rfl⟩
    · exact Or.inr (Or.inl ⟨Or.inr (Or.inr rfl), hct⟩)
    · exact Or.inr (Or.inr ⟨rfl, hsub⟩)

/-- A tick, the `n` requests it makes, and their answers. -/
def round (n : ℕ) : List StartupEvent :=
  .interval [] :: (List.range n).map .handle ++ List.replicate n (.answer 0)

/-- A start with a server that has the AE already. -/
def started : List StartupEvent := round 1 ++ round 1 ++ round 6 ++ round 1 ++ round 1

theorem resources_exist_started :
    listed.Holds (run (step listed conf_json) (init conf_json [conf_json.ae_path]) started).cse
      "/mobius-yt/dongguk-capstone/parking_mode/sub-ctrl".toList := by
  refine resources_exist listed conf_json ?_ (by decide +kernel) ?_ (Or.inr (Or.inr ?_))
  · unfold Conf.Apart
    decide +kernel
  · exact ⟨by decide +kernel, by decide +kernel⟩
  · exact ⟨_, List.mem_cons_self, by decide +kernel⟩

/-! ## Completion -/

/-- A request that the gateway goes on from, if it has been handled. -/
def Favoured (s : Setup) : Option (AdnRequest × Option (Option ℕ × AeBody)) → Prop
  | some (r, some (rsc, res_body)) =>
    r.Good rsc ∧ (rsc = some 4105 ∨ s.Counting ∨ res_body.Names)
  | _ => True

instance (s : Setup) : DecidablePred (Favoured s)
  | some (_, some (_, _)) => inferInstanceAs (Decidable (_ ∧ (_ ∨ _ ∨ _)))
  | some (_, none) => isTrue trivial
  | none => isTrue trivial

/-- A server that goes along: no request fails, and every answer is one the gateway goes on
with. -/
def GoesAlong (w : Startup σ) : StartupEvent → Prop
  | .answer i => Favoured w.setup w.flight[i]?
  | .error _ => False
  | .respond rsc => rsc ≠ some 5000
  | _ => True

instance (w : Startup σ) : DecidablePred (GoesAlong w)
  | .answer i => inferInstanceAs (Decidable (Favoured w.setup w.flight[i]?))
  | .error _ => isFalse id
  | .respond rsc => inferInstanceAs (Decidable (rsc ≠ some 5000))
  | .interval _ | .handle _ => isTrue trivial

def ticks (es : List StartupEvent) : ℕ :=
  es.countP fun e => match e with
    | .interval _ => true
    | _ => false

/-- How far a set-up has come after `t` prompt ticks: each of them ends a phase, or makes
requests whose answers do. -/
structure Comes (w : Startup σ) (t : ℕ) : Prop where
  alive : w.setup.crashed = false
  sound : Sound S c w
  opened : w.setup.listening = true → w.setup.sh_state = .crtci
  rounds : w.setup.sh_state = .crtci ∨ w.flight = [] ∧ w.setup.sh_state.left + t ≤ 5 ∨
    w.flight ≠ [] ∧ w.setup.sh_state.left + t ≤ 6 ∧ ∃ counted, InRound S c w counted []

theorem left_pos {a : ShState} (h : a ≠ .crtci) : 0 < a.left := by
  cases a with
  | crtae | rtvae | crtct | delsub | crtsub => decide
  | crtci => exact absurd rfl h

/-- A phase that is over leaves one phase less, after the tick that has been counted. -/
theorem Comes.over {w w' : Startup σ} {t : ℕ} (hw : Comes S c w t) (hover : Over w.setup w'.setup)
    (hsound : Sound S c w') (hflight : w'.flight = []) {u : ℕ}
    (hleft : w.setup.sh_state.left + u ≤ 6) : Comes S c w' u := by
  have hlt := hover.follows.left_lt
  have hne : w.setup.sh_state ≠ .crtci := Follows.ne_crtci hover.follows
  refine ⟨hover.crashed.trans hw.alive, hsound, fun hlistening => ?_, ?_⟩
  · by_contra hne'
    rw [hover.listening hne'] at hlistening
    exact hne (hw.opened hlistening)
  · exact Or.inr (Or.inl ⟨hflight, by omega⟩)

theorem comes_interval {w : Startup σ} {t : ℕ} (hw : Comes S c w t) (hprompt : w.flight = [])
    (generated : Text) : Comes S c (w.step S c (.interval generated)) (t + 1) := by
  have hleft : w.setup.sh_state ≠ .crtci → w.setup.sh_state.left + t ≤ 5 := by
    intro hne
    rcases hw.rounds with h | ⟨-, h⟩ | ⟨h, -⟩
    · exact absurd h hne
    · exact h
    · exact absurd hprompt h
  by_cases hmade : requests c w.setup = []
  · obtain ⟨hflight, hcases⟩ := interval_no_round S c hw.alive hprompt hmade generated
    rcases hcases with ⟨hstate, hsame⟩ | ⟨-, hlistening⟩ | hover
    · have halive := hw.alive
      rw [← hsame] at halive
      have hsound := sound_interval S c hw.sound hw.alive hprompt generated halive
      rw [← hsame] at hstate
      exact ⟨halive, hsound, fun _ => hstate, Or.inl hstate⟩
    · -- the set-up has been complete all along, so the tick changes nothing
      have hstate := hw.opened hlistening
      have hsame : (w.step S c (.interval generated)).setup = w.setup := by
        refine (step_alive c hw.alive (.interval generated)).trans ?_
        dsimp only [interval]
        rw [hstate]
      have halive := hw.alive
      rw [← hsame] at halive hstate
      have hsound := sound_interval S c hw.sound hw.alive hprompt generated halive
      exact ⟨halive, hsound, fun _ => hstate, Or.inl hstate⟩
    · have halive := hover.crashed.trans hw.alive
      have hsound := sound_interval S c hw.sound hw.alive hprompt generated halive
      have hle := hleft (Follows.ne_crtci hover.follows)
      exact hw.over S c hover hsound hflight (by omega)
  · obtain ⟨hstate, halive, -, hlistening, hflight, hround⟩ :=
      interval_round S c hw.alive hprompt hmade generated
    have hsound := sound_interval S c hw.sound hw.alive hprompt generated halive
    have hne : w.setup.sh_state ≠ .crtci := by
      intro hcrtci
      apply hmade
      unfold requests
      rw [hcrtci]
    have hle := hleft hne
    refine ⟨halive, hsound, fun hopened => ?_, Or.inr (Or.inr ⟨?_, ?_, [], hround⟩)⟩
    · rw [hstate]
      exact hw.opened (hlistening ▸ hopened)
    · rw [hflight]
      simpa using hmade
    · rw [hstate]
      omega

theorem comes_handle {w : Startup σ} {t : ℕ} (hkeeps : Keeps S c) (hw : Comes S c w t) (i : ℕ) :
    Comes S c (w.step S c (.handle i)) t := by
  have hsound := sound_handle S c hkeeps hw.sound i
  have hsetup : (w.step S c (.handle i)).setup = w.setup := by
    simp only [step]
    split
    · rfl
    · rfl
  have hlength : (w.step S c (.handle i)).flight.length = w.flight.length := by
    simp only [step]
    split
    · exact List.length_set
    · rfl
  refine ⟨hsetup ▸ hw.alive, hsound, hsetup ▸ hw.opened, ?_⟩
  rw [hsetup]
  rcases hw.rounds with h | ⟨hflight, h⟩ | ⟨hflight, h, counted, hround⟩
  · exact Or.inl h
  · refine Or.inr (Or.inl ⟨?_, h⟩)
    rw [← List.length_eq_zero_iff, hlength, hflight, List.length_nil]
  · refine Or.inr (Or.inr ⟨?_, h, counted, ?_⟩)
    · rw [← List.length_pos_iff, hlength]
      exact List.length_pos_iff.mpr hflight
    · exact inRound_handle S c hkeeps hw.sound.configured hround i

/-- Nothing is in flight once the set-up is complete. -/
theorem Sound.flight_nil {w : Startup σ} (hw : Sound S c w) (hstate : w.setup.sh_state = .crtci) :
    w.flight = [] := by
  rcases hw.current with hnil | ⟨counted, dropped, hround⟩
  · exact hnil
  · have hperm := hround.round
    unfold Tally.Round requests at hperm
    rw [hstate] at hperm
    have hnil := List.Perm.eq_nil hperm
    simpa using (List.append_eq_nil_iff.mp hnil).2

theorem comes_answer {w : Startup σ} {t : ℕ} (hw : Comes S c w t) (i : ℕ)
    (hgoes : GoesAlong w (.answer i)) : Comes S c (w.step S c (.answer i)) t := by
  rcases hi : w.flight[i]? with _ | ⟨r, _ | ⟨rsc, res_body⟩⟩
  · simp only [step, hi]
    exact hw
  · simp only [step, hi]
    exact hw
  have hfavoured : Favoured w.setup w.flight[i]? := hgoes
  rw [hi] at hfavoured
  obtain ⟨hgood, hbody⟩ := hfavoured
  have hne : w.flight ≠ [] := List.ne_nil_of_mem (List.mem_of_getElem? hi)
  have hstate : w.setup.sh_state ≠ .crtci := fun h => hne (hw.sound.flight_nil S c h)
  rcases hw.rounds with h | ⟨hnil, -⟩ | ⟨-, hleft, counted, hround⟩
  · exact absurd h hstate
  · exact absurd hnil hne
  rcases answer_cases S c hw.sound hw.alive hround hi with ⟨hbad, -⟩ |
    ⟨-, hcount, ⟨hcounting, hnot⟩, hround'⟩ | ⟨-, hnil, -, hends⟩
  · exact absurd hgood hbad
  · -- one of several answers: another one is still out
    have halive : (w.step S c (.answer i)).setup.crashed = false := by
      rw [hcount]
      exact hw.alive
    refine ⟨halive, sound_answer S c hw.sound hw.alive i halive, ?_, Or.inr (Or.inr ⟨?_, ?_, _, hround'⟩)⟩
    · rw [hcount]
      exact hw.opened
    · have hrequests : requests c (w.step S c (.answer i)).setup = requests c w.setup := by
        rw [hcount]
        exact requests_congr c rfl rfl
      have hwaiting := hround'.round.waiting
      rw [hrequests] at hwaiting
      obtain ⟨hreturn, hrequest⟩ := hround.count hcounting
      rw [hreturn, hrequest] at hnot
      have hne' : (counted ++ [r]).length ≠ (requests c w.setup).length := by
        rw [List.length_append, List.length_singleton]
        exact hnot
      exact fun hnil => hwaiting hne' (by rw [hnil, List.map_nil])
    · rw [hcount]
      exact hleft
  · rcases hends with ⟨-, ⟨hcounting, hconflict, hno⟩ | hlistening⟩ | hover
    · rcases hbody with h | h | h
      · exact absurd h hconflict
      · exact absurd h hcounting
      · exact absurd h hno
    · exact absurd (hw.opened hlistening) hstate
    · have hsound := sound_answer S c hw.sound hw.alive i (hover.crashed.trans hw.alive)
      exact hw.over S c hover hsound hnil hleft

theorem comes_step {w : Startup σ} {t : ℕ} (hkeeps : Keeps S c) (hw : Comes S c w t)
    (e : StartupEvent) (hprompt : Prompt w e) (hgoes : GoesAlong w e) :
    Comes S c (w.step S c e) (t + ticks [e]) := by
  cases e with
  | interval generated => exact comes_interval S c hw hprompt generated
  | handle i => exact comes_handle S c hkeeps hw i
  | answer i => exact comes_answer S c hw i hgoes
  | error i => exact absurd hgoes id
  | respond rsc =>
    rcases respond_cases S c hw.alive rsc with hsame | ⟨hrsc, -⟩
    · rw [hsame]
      exact hw
    · exact absurd hrsc hgoes

theorem comes_run {w : Startup σ} {t : ℕ} (hkeeps : Keeps S c) (hw : Comes S c w t)
    (es : List StartupEvent)
    (hsteps : Steps (step S c) (fun w e => Prompt w e ∧ GoesAlong w e) w es) :
    Comes S c (run (step S c) w es) (t + ticks es) := by
  induction es generalizing w t with
  | nil => exact hw
  | cons e es ih =>
    obtain ⟨⟨hprompt, hgoes⟩, hrest⟩ := hsteps
    have hstep := comes_step S c hkeeps hw e hprompt hgoes
    have hcount : ticks (e :: es) = ticks [e] + ticks es := by
      rw [ticks, ← List.singleton_append, List.countP_append]
      rfl
    rw [hcount, ← Nat.add_assoc]
    exact ih hstep hrest

/-- **The set-up completes**: if ticks are prompt, no request fails and the server goes
along, the gateway serves after five ticks, once their requests have been answered. -/
theorem setup_completes {cse : σ} {es : List StartupEvent} (hsupported : c.Supported)
    (hsteps : Steps (step S c) (fun w e => Prompt w e ∧ GoesAlong w e) (init c cse) es)
    (hticks : 5 ≤ ticks es) (hflight : (run (step S c) (init c cse) es).flight = []) :
    (run (step S c) (init c cse) es).setup.Serves := by
  -- what the server holds does not matter here
  let S' : Cse σ := ⟨S.handle, fun _ _ => True, fun _ _ _ _ _ => trivial, fun _ _ _ _ _ => trivial⟩
  have hkeeps : Keeps S' c := fun _ _ _ _ _ _ _ _ => trivial
  have hinit : Comes S' c (init c cse) 0 := by
    refine ⟨?_, sound_init S' c cse, fun h => ?_, Or.inr (Or.inl ⟨rfl, le_refl 5⟩)⟩
    · simpa [init, Setup.init] using hsupported
    · simp [init, Setup.init] at h
  have hcomes : Comes S' c (run (step S c) (init c cse) es) (0 + ticks es) :=
    comes_run S' c hkeeps hinit es hsteps
  refine ⟨?_, hcomes.alive⟩
  by_contra hne
  have hpos := left_pos hne
  rcases hcomes.rounds with h | ⟨-, hleft⟩ | ⟨h, -⟩
  · exact hne h
  · omega
  · exact h hflight

theorem setup_completes_started :
    (run (step listed conf_json) (init conf_json [conf_json.ae_path]) started).setup.Serves :=
  setup_completes listed conf_json (by decide +kernel) (by decide +kernel) (by decide +kernel)
    (List.isEmpty_iff.mp (by decide +kernel))

end Startup

end SmartBike.Gateway
