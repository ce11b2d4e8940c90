/-
Notifications over HTTP: the handler of `app.post`, lines 503-632 of `app.js`.

The handler goes over the subscriptions with the address of the request, and for each of them over
the subscriptions that the notification names. Each time it answers the request, and to answer it
a second time is an exception. So all it does is to inform as often as there are pairs of the two
(`post_eq`), which is once at most (`iterate_inform`). An address without a path, such as
`mqtt://autoset`, is an exception of its own, unless the handler has returned before
(`foldl_visit_ends`). The request is answered with 201 and without an exception exactly if every
address has a path and there is one subscription of either kind (`post_iff`).

An exception does not end the process here: the router catches it. Bodies are what `body-parser`
has made of them.
-/
import Mathlib.Logic.Function.Iterate
import SmartBike.Gateway.Notify

set_option autoImplicit false

open Js

namespace SmartBike.Gateway

variable {N : Type}

/-- The parts of a request that are read. -/
structure PostRequest (N : Type) where
  resourcename0 : Text
  content_type : Option Text
  x_m2m_ri : Option Text
  -- a value, or the text of the XML
  body : Value N

/-- What `app.post` is given by the rest of the program. -/
structure PostConf (N : Type) where
  bodies : Bodies N
  parse : Text → Url
  usesubname : List Subscription

/-- A request on its way through the handler: what the scripts have been written, the status that
has been sent, `noti_count`, and how the handler has ended. -/
structure Exchange where
  tas : Tas
  status : Option ℕ
  noti_count : ℕ
  thrown : Bool
  returned : Bool

namespace Exchange

def init (g : Tas) : Exchange := ⟨g, none, 0, false, false⟩

/-- The handler does not go on. -/
def Over (x : Exchange) : Prop := x.thrown = true ∨ x.returned = true

instance (x : Exchange) : Decidable x.Over := inferInstanceAs (Decidable (_ ∨ _))

def throw (x : Exchange) : Exchange := { x with thrown := true }

/-- With another `noti_count`. -/
def counted (x : Exchange) (noti_count : ℕ) : Exchange := { x with noti_count := noti_count }

/-- `setHeader` and `end`, of which the first throws if a status has been sent. -/
def send (x : Exchange) (status : ℕ) : Exchange :=
  if x.status = none then { x with status := some status } else x.throw

/-- The answer 201, which has a header with the identifier: `setHeader` throws if there is
none. -/
def created (x : Exchange) (x_m2m_ri : Option Text) : Exchange :=
  if x_m2m_ri = none then x.throw else x.send 201

end Exchange

def ntfy_xml : Text := "application/vnd.onem2m-ntfy+xml".toList

def ntfy_json : Text := "application/vnd.onem2m-ntfy+json".toList

/-- What follows the `+` in one of the two content types that are taken. -/
def PostRequest.bodytype (r : PostRequest N) : Option BodyType :=
  if r.content_type = some ntfy_xml then some .xml
  else if r.content_type = some ntfy_json then some .json
  else none

/-- The object with nothing but `con`. -/
def only_con (con : Value N) : Value N := some (.object (defined [("con", con)]))

section

variable (num : Numbers N)

/-- `path_arr` and `cinObj`; `none` where reading throws. The two kinds of body differ in what is
taken of a `contentInstance`. -/
def read_sgn (bodytype : BodyType) (result : Value N) : Option (List Text × Value N) := do
  let sgn ← prop result "m2m:sgn"
  if isNull sgn then
    let sgnObj ← prop result "m2m:singleNotification"
    let path_arr ← split '/' (← prop sgnObj "subscriptionReference")
    let notificationEvent ← prop sgnObj "notificationEvent"
    let representation ← prop notificationEvent "representation"
    let contentInstance ← prop representation "contentInstance"
    if isNull contentInstance then return (path_arr, only_con (some (.string "")))
    else
      match bodytype with
      | .json => return (path_arr, contentInstance)
      | .xml => return (path_arr, only_con (← prop contentInstance "content"))
  else
    let path_arr ← split '/' (← prop sgn "sur")
    let nev ← prop sgn "nev"
    let rep ← prop nev "rep"
    let cin ← prop rep "cin"
    if truthy num cin then return (path_arr, cin)
    else
      let cin ← prop rep "m2m:cin"
      return (path_arr, if truthy num cin then cin else only_con (some (.string "")))

end

namespace PostConf

variable (c : PostConf N)

/-- The subscription is one that the notification names: the fourth and the fifth part of the
path. -/
def Names (path_arr : List Text) (sub : Subscription) : Prop :=
  (sub.parentpath.splitOn '/')[2]? = path_arr[3]? ∧ sub.subname = path_arr[4]?

instance (path_arr : List Text) : DecidablePred (Names path_arr) :=
  fun _ => inferInstanceAs (Decidable (_ ∧ _))

/-- What is done for a subscription that the notification names. -/
def inform (x_m2m_ri : Option Text) (path_arr : List Text) (cinObj : Value N) (x : Exchange) :
    Exchange :=
  if x.Over then x
  else
    let x := x.created x_m2m_ri
    if x.thrown then x
    else
      match send_tas c.bodies.num x.tas path_arr cinObj with
      | none => x.throw
      | some tas => { x with tas := tas }

/-- The loop over `j`. -/
def deliver (x_m2m_ri : Option Text) (path_arr : List Text) (cinObj : Value N) (x : Exchange) :
    Exchange :=
  c.usesubname.foldl
    (fun x sub => if Names path_arr sub then c.inform x_m2m_ri path_arr cinObj x else x) x

/-- What the body is read as: `none` where reading throws, or where there is no `path_arr` and
the loop over `j` throws. -/
def notification (bodytype : BodyType) (body : Value N) : Option (List Text × Value N) :=
  match bodytype with
  | .json => read_sgn c.bodies.num .json body
  | .xml => do
    let text ← body.bind (str c.bodies.num)
    let result ← c.bodies.xml text
    read_sgn c.bodies.num .xml result

/-- The subscription has the address of the request. -/
def Addressed (resourcename0 : Text) (sub : Subscription) : Prop :=
  ∃ nu, sub.nu = some nu ∧ ∃ pathname, (c.parse nu).pathname = some pathname ∧
    (pathname.splitOn '/')[1]? = some resourcename0

instance (resourcename0 : Text) : DecidablePred (c.Addressed resourcename0) := fun sub =>
  match hnu : sub.nu with
  | none => .isFalse (by simp [Addressed, hnu])
  | some nu =>
    match hpathname : (c.parse nu).pathname with
    | none => .isFalse (by simp [Addressed, hnu, hpathname])
    | some pathname => decidable_of_iff ((pathname.splitOn '/')[1]? = some resourcename0)
        (by simp [Addressed, hnu, hpathname])

/-- The subscription has no address, or one with a path; of any other line 507 throws. -/
def HasPath (sub : Subscription) : Prop := ∀ nu, sub.nu = some nu → (c.parse nu).pathname ≠ none

instance : DecidablePred c.HasPath := fun sub =>
  match hnu : sub.nu with
  | none => .isTrue (by simp [HasPath, hnu])
  | some nu => decidable_of_iff ((c.parse nu).pathname ≠ none) (by simp [HasPath, hnu])

/-- What is done for a subscription with the address of the request. -/
def round (r : PostRequest N) (x : Exchange) : Exchange :=
  if x.Over then x
  else match r.bodytype with
    | none => { x.send 400 with returned := true }
    | some bodytype =>
      let x := x.counted (x.noti_count + 1)
      match c.notification bodytype r.body with
      | none => x.throw
      | some (path_arr, cinObj) => c.deliver r.x_m2m_ri path_arr cinObj x

/-- The loop over `i`, for one subscription. -/
def visit (r : PostRequest N) (x : Exchange) (sub : Subscription) : Exchange :=
  if x.Over then x
  else if c.HasPath sub then
    if c.Addressed r.resourcename0 sub then c.round r x else x
  else x.throw

/-- The handler. -/
def post (r : PostRequest N) (g : Tas) : Exchange :=
  let x := c.usesubname.foldl (c.visit r) (.init g)
  if x.Over then x else if x.noti_count = 0 then x.send 404 else x

/-! ## Rounds -/

/-- A loop that does the same thing for each element of a kind. -/
theorem foldl_if {α β : Type*} (p : β → Prop) [DecidablePred p] (f : α → α) (l : List β) (a : α) :
    l.foldl (fun a b => if p b then f a else a) a = f^[l.countP p] a := by
  induction l generalizing a with
  | nil => rfl
  | cons b l ih =>
    rw [List.foldl_cons, ih]
    by_cases hb : p b
    · rw [if_pos hb, List.countP_cons_of_pos (by simpa using hb)]
      rfl
    · rw [if_neg hb, List.countP_cons_of_neg (by simpa using hb)]

/-- How many subscriptions the notification names. -/
def named (path_arr : List Text) : ℕ := c.usesubname.countP fun sub => Names path_arr sub

/-- How many have the address. -/
def addressed (resourcename0 : Text) : ℕ :=
  c.usesubname.countP fun sub => c.Addressed resourcename0 sub

section Informing

variable (x_m2m_ri : Option Text) (path_arr : List Text) (cinObj : Value N) {x : Exchange}

theorem inform_over (hx : x.Over) : c.inform x_m2m_ri path_arr cinObj x = x := if_pos hx

/-- The first time. -/
theorem inform_first (hx : ¬ x.Over) (hstatus : x.status = none) :
    c.inform x_m2m_ri path_arr cinObj x =
      if x_m2m_ri = none then x.throw
      else match send_tas c.bodies.num x.tas path_arr cinObj with
        | none => { x with status := some 201, thrown := true }
        | some tas => { x with status := some 201, tas := tas } := by
  have hthrown : x.thrown = false := by
    simp only [Exchange.Over, not_or, Bool.not_eq_true] at hx
    exact hx.1
  rw [inform, if_neg hx, Exchange.created, Exchange.send, if_pos hstatus]
  by_cases hri : x_m2m_ri = none
  · rw [if_pos hri, if_pos hri]
    exact if_pos rfl
  · rw [if_neg hri, if_neg hri]
    show (if x.thrown = true then _ else _) = _
    rw [hthrown, if_neg Bool.false_ne_true]
    rfl

/-- Once a status has been sent, to inform is an exception. -/
theorem inform_again (hx : ¬ x.Over) {status : ℕ} (hstatus : x.status = some status) :
    c.inform x_m2m_ri path_arr cinObj x = x.throw := by
  have hcreated : x.created x_m2m_ri = x.throw := by
    rw [Exchange.created, Exchange.send, hstatus, if_neg (Option.some_ne_none status), ite_self]
  rw [inform, if_neg hx, hcreated]
  exact if_pos rfl

theorem throw_over : x.throw.Over := Or.inl rfl

theorem throw_of_thrown (hx : x.thrown = true) : x.throw = x := by
  rw [Exchange.throw, ← hx]

/-- The second time is an exception, if the first was none. -/
theorem inform_inform (hx : ¬ x.Over) (hstatus : x.status = none) :
    c.inform x_m2m_ri path_arr cinObj (c.inform x_m2m_ri path_arr cinObj x) =
      (c.inform x_m2m_ri path_arr cinObj x).throw := by
  rw [c.inform_first x_m2m_ri path_arr cinObj hx hstatus]
  by_cases hri : x_m2m_ri = none
  · rw [if_pos hri]
    exact c.inform_over _ _ _ throw_over
  · rw [if_neg hri]
    cases send_tas c.bodies.num x.tas path_arr cinObj with
    | none =>
      refine (c.inform_over _ _ _ (Or.inl rfl)).trans ?_
      exact (throw_of_thrown rfl).symm
    | some tas => exact c.inform_again x_m2m_ri path_arr cinObj hx rfl

/-- **To inform more often than once is to inform once, and an exception.** -/
theorem iterate_inform (hx : ¬ x.Over) (hstatus : x.status = none) (n : ℕ) :
    (c.inform x_m2m_ri path_arr cinObj)^[n + 2] x =
      (c.inform x_m2m_ri path_arr cinObj x).throw := by
  rw [Function.iterate_succ_apply, Function.iterate_succ_apply,
    c.inform_inform x_m2m_ri path_arr cinObj hx hstatus]
  exact Function.iterate_fixed (c.inform_over _ _ _ throw_over) n

/-- To inform neither reads the count nor changes it. -/
theorem inform_counted (n : ℕ) :
    Function.Commute (c.inform x_m2m_ri path_arr cinObj) (Exchange.counted · n) := by
  intro x
  show c.inform x_m2m_ri path_arr cinObj (x.counted n) = _
  by_cases hx : x.Over
  · rw [c.inform_over _ _ _ hx]
    exact c.inform_over (x := x.counted n) _ _ _ hx
  · have hcounted : ¬ (x.counted n).Over := hx
    cases hstatus : x.status with
    | some status =>
      rw [c.inform_again _ _ _ hx hstatus, c.inform_again _ _ _ hcounted hstatus]
      rfl
    | none =>
      rw [c.inform_first _ _ _ hx hstatus, c.inform_first _ _ _ hcounted hstatus]
      by_cases hri : x_m2m_ri = none
      · rw [if_pos hri, if_pos hri]
        rfl
      · rw [if_neg hri, if_neg hri]
        show (match send_tas c.bodies.num x.tas path_arr cinObj with
          | none => _
          | some tas => _) = _
        cases send_tas c.bodies.num x.tas path_arr cinObj with
        | none => rfl
        | some tas => rfl

end Informing

/-! ## The loop over `i` -/

section Rounds

variable {c} {r : PostRequest N} {bodytype : BodyType} {path_arr : List Text} {cinObj : Value N}
  {x : Exchange}

theorem round_over (hx : x.Over) : c.round r x = x := if_pos hx

theorem round_eq (hbodytype : r.bodytype = some bodytype)
    (hnotification : c.notification bodytype r.body = some (path_arr, cinObj)) (hx : ¬ x.Over) :
    c.round r x = ((c.inform r.x_m2m_ri path_arr cinObj)^[c.named path_arr] x).counted
      (x.noti_count + 1) := by
  rw [round, if_neg hx, hbodytype]
  show (match c.notification bodytype r.body with
    | none => _
    | some (path_arr, cinObj) => _) = _
  rw [hnotification]
  show c.deliver r.x_m2m_ri path_arr cinObj _ = _
  rw [deliver, foldl_if]
  exact (c.inform_counted r.x_m2m_ri path_arr cinObj (x.noti_count + 1)).iterate_left _ x

/-- Rounds are as much as to inform for all pairs. -/
theorem iterate_round (hbodytype : r.bodytype = some bodytype)
    (hnotification : c.notification bodytype r.body = some (path_arr, cinObj)) (g : Tas) (k : ℕ) :
    ∃ n, (k ≠ 0 → n ≠ 0) ∧ (c.round r)^[k] (.init g) =
      ((c.inform r.x_m2m_ri path_arr cinObj)^[c.named path_arr * k] (.init g)).counted n := by
  induction k with
  | zero => exact ⟨0, id, rfl⟩
  | succ k ih =>
    obtain ⟨n, hn, ih⟩ := ih
    rw [Function.iterate_succ_apply', ih, Nat.mul_succ,
      Nat.add_comm (c.named path_arr * k), Function.iterate_add_apply]
    set x := (c.inform r.x_m2m_ri path_arr cinObj)^[c.named path_arr * k] (.init g) with hx_def
    by_cases hx : x.Over
    · have hk : k ≠ 0 := by
        rintro rfl
        rw [hx_def] at hx
        simp [Exchange.Over, Exchange.init] at hx
      refine ⟨n, fun _ => hn hk, ?_⟩
      rw [round_over (x := x.counted n) hx,
        Function.iterate_fixed (c.inform_over r.x_m2m_ri path_arr cinObj hx)]
    · refine ⟨n + 1, fun _ => Nat.succ_ne_zero n, ?_⟩
      rw [round_eq (x := x.counted n) hbodytype hnotification hx]
      have hcommute : (c.inform r.x_m2m_ri path_arr cinObj)^[c.named path_arr] (x.counted n) =
          ((c.inform r.x_m2m_ri path_arr cinObj)^[c.named path_arr] x).counted n :=
        (c.inform_counted r.x_m2m_ri path_arr cinObj n).iterate_left (c.named path_arr) x
      rw [hcommute]
      rfl

/-- Where every subscription has a path, the loop is rounds. -/
theorem foldl_visit (r : PostRequest N) {subs : List Subscription}
    (hsubs : ∀ sub ∈ subs, c.HasPath sub) (x : Exchange) : subs.foldl (c.visit r) x
      = (c.round r)^[subs.countP fun sub => c.Addressed r.resourcename0 sub] x := by
  rw [← foldl_if]
  apply List.foldl_ext
  intro x sub hsub
  by_cases hx : x.Over
  · rw [visit, if_pos hx, round_over hx, ite_self]
  · rw [visit, if_neg hx, if_pos (hsubs sub hsub)]

theorem post_eq_iterate (hpaths : ∀ sub ∈ c.usesubname, c.HasPath sub) (r : PostRequest N) (g : Tas)
    {x : Exchange} (hx : (c.round r)^[c.addressed r.resourcename0] (.init g) = x) :
    c.post r g = if x.Over then x else if x.noti_count = 0 then x.send 404 else x := by
  rw [← hx, post, foldl_visit r hpaths]
  rfl

/-- **A notification is handled by informing as often as there are pairs of a subscription with
the address and one that is named.** -/
theorem post_eq (hpaths : ∀ sub ∈ c.usesubname, c.HasPath sub)
    (hbodytype : r.bodytype = some bodytype)
    (hnotification : c.notification bodytype r.body = some (path_arr, cinObj)) (g : Tas)
    (haddressed : c.addressed r.resourcename0 ≠ 0) :
    ∃ n, c.post r g =
      ((c.inform r.x_m2m_ri path_arr cinObj)^[c.named path_arr * c.addressed r.resourcename0]
        (.init g)).counted n := by
  obtain ⟨n, hn, hround⟩ :=
    iterate_round hbodytype hnotification g (c.addressed r.resourcename0)
  refine ⟨n, ?_⟩
  rw [post_eq_iterate hpaths r g hround, ite_eq_left_iff]
  intro _
  exact if_neg (hn haddressed)

/-- Without an address of this gateway the answer is 404. -/
theorem post_not_addressed (hpaths : ∀ sub ∈ c.usesubname, c.HasPath sub) (r : PostRequest N)
    (g : Tas) (haddressed : c.addressed r.resourcename0 = 0) :
    c.post r g = { Exchange.init g with status := some 404 } := by
  have hround : (c.round r)^[c.addressed r.resourcename0] (.init g) = .init g := by
    rw [haddressed]
    rfl
  rw [post_eq_iterate hpaths r g hround]
  rfl

/-- What has ended in the first round stays. -/
theorem post_over (hpaths : ∀ sub ∈ c.usesubname, c.HasPath sub) (r : PostRequest N) (g : Tas)
    (haddressed : c.addressed r.resourcename0 ≠ 0)
    (hx : (c.round r (.init g)).Over) : c.post r g = c.round r (.init g) := by
  obtain ⟨k, hk⟩ := Nat.exists_eq_succ_of_ne_zero haddressed
  have hround : (c.round r)^[c.addressed r.resourcename0] (.init g) = c.round r (.init g) := by
    rw [hk, Function.iterate_succ_apply]
    exact Function.iterate_fixed (round_over hx) k
  rw [post_eq_iterate hpaths r g hround, if_pos hx]

/-! ## Without a path -/

theorem inform_returned (x_m2m_ri : Option Text) (path_arr : List Text) (cinObj : Value N)
    (x : Exchange) : (c.inform x_m2m_ri path_arr cinObj x).returned = x.returned := by
  by_cases hx : x.Over
  · rw [c.inform_over _ _ _ hx]
  cases hstatus : x.status with
  | some status =>
    rw [c.inform_again _ _ _ hx hstatus]
    rfl
  | none =>
    rw [c.inform_first _ _ _ hx hstatus]
    split_ifs
    · rfl
    · cases send_tas c.bodies.num x.tas path_arr cinObj with
      | none => rfl
      | some tas => rfl

/-- The handler returns with the status 400. -/
theorem round_returned {x : Exchange} (hx : ¬ x.Over) (h : (c.round r x).returned = true) :
    (c.round r x).thrown = true ∨ (c.round r x).status = some 400 := by
  have hreturned : x.returned = false := by
    simp only [Exchange.Over, not_or, Bool.not_eq_true] at hx
    exact hx.2
  rw [round, if_neg hx] at h ⊢
  cases hbodytype : r.bodytype with
  | none =>
    unfold Exchange.send
    split_ifs
    · exact Or.inr rfl
    · exact Or.inl rfl
  | some bodytype =>
    simp only [hbodytype] at h
    split at h
    · simp [Exchange.throw, Exchange.counted, hreturned] at h
    · rename_i path_arr cinObj _
      rw [deliver, foldl_if] at h
      have hdeliver : ∀ n, ((c.inform r.x_m2m_ri path_arr cinObj)^[n]
          (x.counted (x.noti_count + 1))).returned = false := by
        intro n
        induction n with
        | zero => exact hreturned
        | succ n ih => rw [Function.iterate_succ_apply', inform_returned, ih]
      rw [hdeliver] at h
      exact absurd h Bool.false_ne_true

theorem foldl_visit_over {x : Exchange} (hx : x.Over) (subs : List Subscription) :
    subs.foldl (c.visit r) x = x := by
  induction subs with
  | nil => rfl
  | cons sub subs ih =>
    have hvisit : c.visit r x sub = x := if_pos hx
    rw [List.foldl_cons, hvisit, ih]

/-- **An address without a path** is not passed without an exception, unless the handler has
returned before. -/
theorem foldl_visit_ends {subs : List Subscription} (hsubs : ∃ sub ∈ subs, ¬ c.HasPath sub)
    {x : Exchange} (hx : x.Over → x.thrown = true ∨ x.status = some 400) :
    (subs.foldl (c.visit r) x).Over ∧ ((subs.foldl (c.visit r) x).thrown = true ∨
      (subs.foldl (c.visit r) x).status = some 400) := by
  induction subs generalizing x with
  | nil => simp at hsubs
  | cons sub subs ih =>
    rw [List.foldl_cons]
    by_cases hover : x.Over
    · have hvisit : c.visit r x sub = x := if_pos hover
      rw [hvisit, foldl_visit_over hover]
      exact ⟨hover, hx hover⟩
    by_cases hpath : c.HasPath sub
    · have hrest : ∃ sub ∈ subs, ¬ c.HasPath sub := by
        obtain ⟨sub', hsub', hnot⟩ := hsubs
        rcases List.mem_cons.mp hsub' with rfl | hsub'
        · exact absurd hpath hnot
        · exact ⟨sub', hsub', hnot⟩
      apply ih hrest
      rw [visit, if_neg hover, if_pos hpath]
      split_ifs
      · rintro (hthrown | hreturned)
        · exact Or.inl hthrown
        · exact round_returned hover hreturned
      · exact fun h => absurd h hover
    · have hvisit : c.visit r x sub = x.throw := by rw [visit, if_neg hover, if_neg hpath]
      rw [hvisit, foldl_visit_over throw_over]
      exact ⟨throw_over, Or.inl rfl⟩

/-- So the request is not answered with 201. -/
theorem post_no_path (hpaths : ¬ ∀ sub ∈ c.usesubname, c.HasPath sub) (r : PostRequest N)
    (g : Tas) :
    (c.post r g).thrown = true ∨ (c.post r g).status = some 400 := by
  push Not at hpaths
  have hinit : (Exchange.init g).Over →
      (Exchange.init g).thrown = true ∨ (Exchange.init g).status = some 400 := by
    simp [Exchange.Over, Exchange.init]
  obtain ⟨hover, hends⟩ := foldl_visit_ends (r := r) hpaths hinit
  rw [post, if_pos hover]
  exact hends

end Rounds

/-! ## When the request is answered with 201 -/

theorem init_not_over (g : Tas) : ¬ (Exchange.init g).Over := by
  simp [Exchange.Over, Exchange.init]

/-- Informed once, the request is answered without an exception if it has an identifier and
`send_tas` does not throw. -/
theorem inform_iff (x_m2m_ri : Option Text) (path_arr : List Text) (cinObj : Value N)
    (g g' : Tas) :
    ((c.inform x_m2m_ri path_arr cinObj (.init g)).status = some 201 ∧
        (c.inform x_m2m_ri path_arr cinObj (.init g)).thrown = false ∧
        (c.inform x_m2m_ri path_arr cinObj (.init g)).tas = g') ↔
      x_m2m_ri ≠ none ∧ send_tas c.bodies.num g path_arr cinObj = some g' := by
  rw [c.inform_first x_m2m_ri path_arr cinObj (init_not_over g) rfl]
  show _ ↔ x_m2m_ri ≠ none ∧ send_tas c.bodies.num (Exchange.init g).tas path_arr cinObj = some g'
  by_cases hri : x_m2m_ri = none
  · rw [if_pos hri]
    simp [hri, Exchange.throw]
  · rw [if_neg hri]
    cases send_tas c.bodies.num (Exchange.init g).tas path_arr cinObj with
    | none => simp
    | some tas => simp [hri, Exchange.init]

/-- Informed another number of times, it is not. -/
theorem iterate_inform_iff (x_m2m_ri : Option Text) (path_arr : List Text) (cinObj : Value N)
    (g g' : Tas) (k : ℕ) {x : Exchange}
    (hx : (c.inform x_m2m_ri path_arr cinObj)^[k] (.init g) = x) :
    (x.status = some 201 ∧ x.thrown = false ∧ x.tas = g') ↔
      k = 1 ∧ x_m2m_ri ≠ none ∧ send_tas c.bodies.num g path_arr cinObj = some g' := by
  subst hx
  match k with
  | 0 => simp [Exchange.init]
  | 1 =>
    rw [eq_self_iff_true, true_and]
    exact c.inform_iff x_m2m_ri path_arr cinObj g g'
  | k + 2 =>
    rw [c.iterate_inform x_m2m_ri path_arr cinObj (init_not_over g) rfl k]
    simp [Exchange.throw]

/-- **A notification over HTTP is answered with 201 and without an exception exactly if every
address that is subscribed with has a path, its content type is one of the two, it has an
identifier, one subscription has its address and one is named by it, and `send_tas` does not throw;
and then the scripts are told once.** -/
theorem post_iff (r : PostRequest N) (g g' : Tas) :
    ((c.post r g).status = some 201 ∧ (c.post r g).thrown = false ∧ (c.post r g).tas = g') ↔
      (∀ sub ∈ c.usesubname, c.HasPath sub) ∧ c.addressed r.resourcename0 = 1 ∧
        r.x_m2m_ri ≠ none ∧ ∃ bodytype path_arr cinObj, r.bodytype = some bodytype ∧
          c.notification bodytype r.body = some (path_arr, cinObj) ∧
          c.named path_arr = 1 ∧ send_tas c.bodies.num g path_arr cinObj = some g' := by
  by_cases hpaths : ∀ sub ∈ c.usesubname, c.HasPath sub
  swap
  · refine iff_of_false ?_ fun h => hpaths h.1
    rintro ⟨hstatus, hthrown, -⟩
    rcases post_no_path hpaths r g with h | h
    · rw [hthrown] at h
      exact Bool.false_ne_true h
    · rw [hstatus] at h
      simp at h
  by_cases haddressed : c.addressed r.resourcename0 = 0
  · rw [post_not_addressed hpaths r g haddressed, haddressed]
    simp
  cases hbodytype : r.bodytype with
  | none =>
    have hround : c.round r (.init g) = { (Exchange.init g).send 400 with returned := true } := by
      rw [round, if_neg (init_not_over g), hbodytype]
    rw [post_over hpaths r g haddressed (by rw [hround]; exact Or.inr rfl), hround]
    simp [Exchange.send, Exchange.init]
  | some bodytype =>
    cases hnotification : c.notification bodytype r.body with
    | none =>
      have hround : c.round r (.init g) = ((Exchange.init g).counted 1).throw := by
        rw [round, if_neg (init_not_over g), hbodytype]
        show (match c.notification bodytype r.body with
          | none => _
          | some (path_arr, cinObj) => _) = _
        rw [hnotification]
        rfl
      rw [post_over hpaths r g haddressed (by rw [hround]; exact throw_over), hround]
      simp [Exchange.throw, hnotification]
    | some heard =>
      obtain ⟨path_arr, cinObj⟩ := heard
      obtain ⟨n, hpost⟩ := post_eq hpaths hbodytype hnotification g haddressed
      rw [hpost]
      refine (c.iterate_inform_iff r.x_m2m_ri path_arr cinObj g g' _ rfl).trans ?_
      constructor
      · rintro ⟨hpairs, hri, htas⟩
        exact ⟨hpaths, Nat.eq_one_of_mul_eq_one_left hpairs, hri, bodytype, path_arr, cinObj, rfl,
          hnotification, Nat.eq_one_of_mul_eq_one_right hpairs, htas⟩
      · rintro ⟨-, hone, hri, _, _, _, hsome, hread, hnamed, htas⟩
        cases hsome
        rw [hnotification] at hread
        obtain ⟨rfl, rfl⟩ := Prod.mk.inj (Option.some.inj hread)
        exact ⟨by rw [hnamed, hone], hri, htas⟩

end PostConf

end SmartBike.Gateway
