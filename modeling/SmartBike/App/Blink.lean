/-
The blinking of the lights: `run` of `left_blink` and `right_blink` of `Navi.java`.

An iteration reads the static field four times, once for the log and once for each test, and
the field may change in between. So what a step finds there is its label, and the threads
have their state in `Blink`. A `1` or `2` posted is followed by the `0` of the same test;
the `0` of the first test is posted only if no other one has been posted by it since the
last `1` or `2`, which is what `check` is for.
-/
import Mathlib.Data.List.Chain
import SmartBike.Gateway.Tas
import SmartBike.Lib.Run

set_option autoImplicit false

open Runs

namespace SmartBike.App

open Gateway (Text)

/-- Where `run` is. -/
inductive BlinkPc where
  -- the read for the log, line 98
  | log
  -- the three tests, lines 99, 103 and 113
  | zero
  | one
  | two
  -- between the two posts of line 104 and 110, and of 114 and 120
  | flash_one
  | flash_two
  -- line 124
  | sleep
  deriving DecidableEq, Repr

namespace BlinkPc

/-- The next step reads the field. -/
def reads : BlinkPc → Bool
  | log | zero | one | two => true
  | flash_one | flash_two | sleep => false

/-- The value just posted, in a flash. -/
def flash : BlinkPc → Option Text
  | flash_one => some ['1']
  | flash_two => some ['2']
  | _ => none

end BlinkPc

/-- The thread, with the codes it has posted to its handler. -/
structure Blink where
  pc : BlinkPc
  check : ℤ
  sent : List Text
  deriving DecidableEq, Repr

namespace Blink

def init : Blink := ⟨.log, -1, []⟩

def sendMessage (b : Blink) (str : Text) : Blink := { b with sent := b.sent ++ [str] }

/-- One step, in which the field holds `value`. -/
def step (b : Blink) (value : Text) : Blink :=
  match b.pc with
  | .log => { b with pc := .zero }
  | .zero =>
    if value = ['0'] ∧ b.check ≠ 0 then { b.sendMessage ['0'] with check := 0, pc := .one }
    else { b with pc := .one }
  | .one =>
    if value = ['1'] then { b.sendMessage ['1'] with pc := .flash_one } else { b with pc := .two }
  | .flash_one => { b.sendMessage ['0'] with check := 1, pc := .two }
  | .two =>
    if value = ['2'] then { b.sendMessage ['2'] with pc := .flash_two } else { b with pc := .sleep }
  | .flash_two => { b.sendMessage ['0'] with check := 2, pc := .sleep }
  | .sleep => { b with pc := .log }

/-- What a step reads. -/
def read (b : Blink) (value : Text) : List Text := if b.pc.reads then [value] else []

/-- All that has been read, where the field holds `values` at the steps. -/
def reads (values : List Text) : List Text := emitted step read init values

/-- The thread of the left light, where `left_check` holds `values` at its steps. -/
def left_blink (values : List Text) : Blink := run step init values

/-- The thread of the right light, where `right_check` holds `values` at its steps. -/
def right_blink (values : List Text) : Blink := run step init values

/-- A code for a light that is on. -/
def On (str : Text) : Prop := str = ['1'] ∨ str = ['2']

/-- The codes posted, by a thread that has read `reads`. -/
structure Disciplined (b : Blink) (reads : List Text) : Prop where
  -- every `1` and `2` is followed by a `0`, which at the end may be still to come
  followed : ∀ pre str post, b.sent = pre ++ str :: post → On str →
    post.head? = some ['0'] ∨ post = [] ∧ b.pc.flash = some str
  three : ¬ [['0'], ['0'], ['0']] <:+: b.sent
  -- at the end of an iteration
  ends : b.pc = .log → b.sent = [] ∨ b.sent.getLast? = some ['0']
  read : ∀ str ∈ b.sent, On str → str ∈ reads

/-! ## The invariant -/

/-- What every step keeps. -/
structure Blinking (b : Blink) (reads : List Text) : Prop where
  chain : b.sent.IsChain fun str next => On str → next = ['0']
  three : ¬ [['0'], ['0'], ['0']] <:+: b.sent
  -- the last code is that of the flash, or a `0`
  last : ∀ str ∈ b.sent.getLast?, str = b.pc.flash.getD ['0']
  -- a second `0` is posted only with `check` as 0
  two : b.check ≠ 0 → ¬ [['0'], ['0']] <:+ b.sent
  read : ∀ str ∈ b.sent, On str → str ∈ reads

theorem blinking_init : init.Blinking [] where
  chain := List.isChain_nil
  three := by decide
  last str h := absurd h (by simp [init])
  two _ := by decide
  read str h := absurd h List.not_mem_nil

theorem not_on_zero : ¬ On ['0'] := by simp [On]

/-- Two `0` at the end are the last code and the one before. -/
theorem two_zeros_concat {sent : List Text} {str : Text}
    (h : [['0'], ['0']] <:+ sent ++ [str]) : str = ['0'] ∧ ['0'] ∈ sent.getLast? := by
  rcases List.suffix_concat_iff.mp h with hnil | ⟨t, ht, ⟨pre, hpre⟩⟩
  · exact absurd hnil (by simp)
  · obtain ⟨rfl, heq⟩ := List.append_inj' (show [['0']] ++ [['0']] = _ from ht) rfl
    refine ⟨(List.singleton_inj.mp heq).symm, ?_⟩
    rw [← hpre, List.getLast?_concat]
    rfl

/-- Three `0` in a row are there already, or the last code makes them three. -/
theorem three_zeros_concat {sent : List Text} {str : Text}
    (h : [['0'], ['0'], ['0']] <:+: sent ++ [str]) :
    [['0'], ['0'], ['0']] <:+: sent ∨ str = ['0'] ∧ [['0'], ['0']] <:+ sent := by
  rcases List.infix_concat_iff.mp h with hend | hin
  · rcases List.suffix_concat_iff.mp hend with hnil | ⟨t, ht, hsuffix⟩
    · exact absurd hnil (by simp)
    · obtain ⟨rfl, heq⟩ := List.append_inj' (show [['0'], ['0']] ++ [['0']] = _ from ht) rfl
      exact Or.inr ⟨(List.singleton_inj.mp heq).symm, hsuffix⟩
  · exact Or.inl hin

theorem Blinking.mono {b : Blink} {reads reads' : List Text} (h : b.Blinking reads)
    (hsub : reads ⊆ reads') : b.Blinking reads' :=
  { h with read := fun str hmem hon => hsub (h.read str hmem hon) }

/-- A step that posts nothing. -/
theorem Blinking.silent {b : Blink} {reads : List Text} (h : b.Blinking reads) {pc : BlinkPc}
    (hflash : pc.flash = b.pc.flash) : Blinking { b with pc := pc } reads :=
  { h with last := fun str hlast => by rw [h.last str hlast, ← hflash] }

/-- The post of a `0`, where the two codes before are not both `0`. -/
theorem Blinking.post_zero {b : Blink} {reads : List Text} (h : b.Blinking reads)
    (htwo : ¬ [['0'], ['0']] <:+ b.sent) {pc : BlinkPc} (hflash : pc.flash = none) {check : ℤ}
    (hcheck : check ≠ 0 → ∀ str ∈ b.sent.getLast?, On str) :
    Blinking { b.sendMessage ['0'] with check := check, pc := pc } reads where
  chain := by
    apply h.chain.append (List.isChain_singleton _)
    intro _ _ next hnext _
    exact (Option.some.inj hnext).symm
  three hthree := by
    rcases three_zeros_concat hthree with hin | ⟨-, hsuffix⟩
    · exact h.three hin
    · exact htwo hsuffix
  last str hlast := by
    rw [hflash]
    change str ∈ (b.sent ++ [['0']]).getLast? at hlast
    rw [List.getLast?_concat] at hlast
    exact (Option.some.inj hlast).symm
  two hne hsuffix := not_on_zero (hcheck hne _ (two_zeros_concat hsuffix).2)
  read str hmem hon := by
    rcases List.mem_append.mp hmem with hmem | hmem
    · exact h.read str hmem hon
    · rw [List.mem_singleton.mp hmem] at hon
      exact absurd hon not_on_zero

/-- The post of a `1` or `2` that has been read. -/
theorem Blinking.post_on {b : Blink} {reads : List Text} (h : b.Blinking reads)
    (hnone : b.pc.flash = none) {str : Text} (hon : On str) (hread : str ∈ reads) {pc : BlinkPc}
    (hflash : pc.flash = some str) : Blinking { b.sendMessage str with pc := pc } reads where
  chain := by
    apply h.chain.append (List.isChain_singleton _)
    intro last hlast _ _ hlaston
    rw [h.last last hlast, hnone] at hlaston
    exact absurd hlaston not_on_zero
  three hthree := by
    rcases three_zeros_concat hthree with hin | ⟨rfl, -⟩
    · exact h.three hin
    · exact not_on_zero hon
  last str' hlast := by
    rw [hflash]
    change str' ∈ (b.sent ++ [str]).getLast? at hlast
    rw [List.getLast?_concat] at hlast
    exact (Option.some.inj hlast).symm
  two _ hsuffix := by
    obtain ⟨rfl, -⟩ := two_zeros_concat hsuffix
    exact not_on_zero hon
  read str' hmem hon' := by
    rcases List.mem_append.mp hmem with hmem | hmem
    · exact h.read str' hmem hon'
    · rwa [List.mem_singleton.mp hmem]

/-- The `0` that ends a flash. -/
theorem Blinking.post_end {b : Blink} {reads : List Text} (h : b.Blinking reads) {str : Text}
    (hon : On str) (hflash : b.pc.flash = some str) {pc : BlinkPc} (hnone : pc.flash = none)
    (check : ℤ) : Blinking { b.sendMessage ['0'] with check := check, pc := pc } reads := by
  have hlast : ∀ last ∈ b.sent.getLast?, On last := by
    intro last hmem
    rw [h.last last hmem, hflash]
    exact hon
  refine h.post_zero ?_ hnone fun _ => hlast
  rintro ⟨pre, hpre⟩
  have hsplit : pre ++ [['0'], ['0']] = pre ++ [['0']] ++ [['0']] := by
    rw [List.append_assoc]
    rfl
  refine not_on_zero (hlast ['0'] ?_)
  rw [← hpre, hsplit, List.getLast?_concat]
  rfl

/-- **One step** of the thread. -/
theorem blinking_step {b : Blink} {reads : List Text} (h : b.Blinking reads) (value : Text) :
    (b.step value).Blinking (reads ++ b.read value) := by
  obtain ⟨pc, check, sent⟩ := b
  have hmono := h.mono (List.subset_append_left reads (read ⟨pc, check, sent⟩ value))
  cases pc with
  | log => exact hmono.silent rfl
  | zero =>
    unfold step
    dsimp only
    split_ifs with hzero
    · exact hmono.post_zero (h.two hzero.2) rfl fun hne => absurd rfl hne
    · exact hmono.silent rfl
  | one =>
    unfold step
    dsimp only
    split_ifs with hone
    · exact hmono.post_on rfl (Or.inl rfl) (by simp [read, BlinkPc.reads, hone]) rfl
    · exact hmono.silent rfl
  | flash_one => exact hmono.post_end (Or.inl rfl) rfl rfl 1
  | two =>
    unfold step
    dsimp only
    split_ifs with htwo
    · exact hmono.post_on rfl (Or.inr rfl) (by simp [read, BlinkPc.reads, htwo]) rfl
    · exact hmono.silent rfl
  | flash_two => exact hmono.post_end (Or.inr rfl) rfl rfl 2
  | sleep => exact hmono.silent rfl

theorem blinking_run (values : List Text) : (run step init values).Blinking (reads values) := by
  induction values using List.reverseRecOn with
  | nil => exact blinking_init
  | append_singleton values value ih =>
    rw [run_concat, reads, emitted_concat]
    exact blinking_step ih value

/-! ## What is posted -/

theorem Blinking.disciplined {b : Blink} {reads : List Text} (h : b.Blinking reads) :
    b.Disciplined reads where
  followed pre str post hsent hon := by
    cases post with
    | nil =>
      refine Or.inr ⟨rfl, ?_⟩
      have hlast := h.last str (by rw [hsent, List.getLast?_concat]; rfl)
      rcases hflash : b.pc.flash with _ | str'
      · rw [hlast, hflash] at hon
        exact absurd hon not_on_zero
      · rw [hlast, hflash]
        rfl
    | cons next post =>
      have hchain := h.chain
      rw [hsent] at hchain
      rw [((List.isChain_append_cons_cons.mp hchain).2.1) hon]
      exact Or.inl rfl
  three := h.three
  ends hpc := by
    rcases hlast : b.sent.getLast? with _ | str
    · exact Or.inl (List.getLast?_eq_none_iff.mp hlast)
    · have hzero := h.last str hlast
      rw [hpc] at hzero
      exact Or.inr (congrArg some hzero)
  read := h.read

/-- **The blinking is disciplined.** Whatever `left_check` holds at the steps of
`left_blink.run`, of the codes it posts every `1` and `2` is followed by `0`, no three in a
row are `0`, at the end of an iteration the last one is `0`, and a `1` or `2` among them has
been read; and so for `right_blink.run`. -/
theorem blink_disciplined (values : List Text) :
    (left_blink values).Disciplined (reads values) ∧
      (right_blink values).Disciplined (reads values) :=
  ⟨(blinking_run values).disciplined, (blinking_run values).disciplined⟩

end Blink

end SmartBike.App
