/-
The brake light: `mpu6050.py`.

Each pass of the loop reads the rotation about one axis from the sensor and lights the light on
pin 18 if it is by more than 1200 above the value of the pass before. A word is read as two
bytes, the high one first, and the register may change in between.

Two results are about whole runs. The values are 16 bit numbers in two's complement
(`read_word_2c_eq`), so the light can be on for 54 passes in a row and no more, however the
bicycle brakes (`lit_at_most`). And a word read in two halves is off by 255 at most from what
the register held first, so what the light says of a change of the register is wrong only for
changes of 691 to 1710 (`levels_torn`).

An error of the bus ends the script and leaves the light as it is.
-/
import Mathlib.Data.List.Forall2
import SmartBike.Lib.Run

set_option autoImplicit false

open Runs

namespace SmartBike.Lights

/-! ## Words -/

/-- What `bus.read_byte_data` returns for the two bytes of a word. -/
structure Word where
  high : BitVec 8
  low : BitVec 8
  deriving DecidableEq, Repr

def read_word (w : Word) : ℕ := (w.high.toNat <<< 8) + w.low.toNat

def read_word_2c (w : Word) : ℤ :=
  let val := read_word w
  if 0x8000 ≤ val then -((65535 - val) + 1) else val

theorem read_word_eq (w : Word) : read_word w = 256 * w.high.toNat + w.low.toNat := by
  rw [read_word, Nat.shiftLeft_eq]
  omega

/-- **Two's complement.** -/
theorem read_word_2c_eq (w : Word) : read_word_2c w = (w.high ++ w.low).toInt := by
  have hlow := w.low.isLt
  have happend : (w.high ++ w.low).toNat = read_word w := by
    rw [BitVec.toNat_append, read_word, Nat.shiftLeft_add_eq_or_of_lt hlow]
  rw [read_word_2c, BitVec.toInt_eq_toNat_cond, happend]
  split_ifs
  · omega
  · omega
  · omega
  · omega

theorem read_word_2c_range (w : Word) : -32768 ≤ read_word_2c w ∧ read_word_2c w ≤ 32767 := by
  have hhigh := w.high.isLt
  have hlow := w.low.isLt
  have hword := read_word_eq w
  unfold read_word_2c
  dsimp only
  split_ifs
  · omega
  · omega

/-- The high byte decides all but 255. -/
theorem read_word_2c_low (high low low' : BitVec 8) :
    read_word_2c ⟨high, low⟩ ≤ read_word_2c ⟨high, low'⟩ + 255 := by
  have hlow := low.isLt
  have hlow' := low'.isLt
  have hword := read_word_eq ⟨high, low⟩
  have hword' := read_word_eq ⟨high, low'⟩
  unfold read_word_2c
  dsimp only at hword hword' ⊢
  split_ifs
  · omega
  · omega
  · omega
  · omega

/-! ## The script -/

/-- What one pass of the loop reads; `gyro_yout` and `gyro_zout` are not used. -/
structure Pass where
  gyro_xout : Word
  gyro_yout : Word
  gyro_zout : Word
  deriving DecidableEq, Repr

inductive Pin where
  | output (level : Bool)
  -- after `gpio.cleanup`
  | input
  deriving DecidableEq, Repr

/-- The script behind its first readings. -/
structure Mpu6050 where
  l_xout : ℤ
  pin18 : Pin
  running : Bool
  deriving DecidableEq, Repr

inductive MpuEvent where
  | pass (p : Pass)
  -- an exception of the bus, in any of its calls
  | io_error
  | interrupt
  deriving DecidableEq, Repr

namespace Mpu6050

/-- The light is put out before the first readings. -/
def init (first : Pass) : Mpu6050 := ⟨read_word_2c first.gyro_xout, .output false, true⟩

def step (s : Mpu6050) : MpuEvent → Mpu6050
  | .pass p =>
    if s.running then
      let n_xout := read_word_2c p.gyro_xout
      { s with pin18 := .output (decide (n_xout - s.l_xout > 1200)), l_xout := n_xout }
    else s
  | .io_error => { s with running := false }
  | .interrupt => if s.running then { s with pin18 := .input, running := false } else s

def Lit (s : Mpu6050) : Prop := s.pin18 = .output true

instance (s : Mpu6050) : Decidable s.Lit := inferInstanceAs (Decidable (_ = _))

/-- The step is one of a script that runs, and lights the light. -/
def Lighting (s : Mpu6050) (e : MpuEvent) : Prop := (s.step e).running = true ∧ (s.step e).Lit

instance (s : Mpu6050) (e : MpuEvent) : Decidable (s.Lighting e) :=
  inferInstanceAs (Decidable (_ ∧ _))

/-! ## How long the light is on -/

def InRange (s : Mpu6050) : Prop := -32768 ≤ s.l_xout ∧ s.l_xout ≤ 32767

theorem inRange_step (s : Mpu6050) (e : MpuEvent) (h : s.InRange) : (s.step e).InRange := by
  cases e with
  | pass p =>
    unfold step
    split_ifs
    · exact read_word_2c_range p.gyro_xout
    · exact h
  | io_error => exact h
  | interrupt =>
    unfold step
    split_ifs
    · exact h
    · exact h

/-- An exception is not a pass, and does not light the light of a script that runs. -/
theorem running_of_running_step {s : Mpu6050} {e : MpuEvent} (h : (s.step e).running = true) :
    s.running = true ∧ ∃ p, e = .pass p := by
  cases e with
  | pass p =>
    refine ⟨?_, p, rfl⟩
    unfold step at h
    split_ifs at h with hrunning
    · exact hrunning
    · exact h
  | io_error => exact absurd h Bool.false_ne_true
  | interrupt =>
    unfold step at h
    cases hrunning : s.running with
    | true => simp [hrunning] at h
    | false => simp [hrunning] at h

/-- **A step that lights the light.** -/
theorem rise_of_lighting {s : Mpu6050} {e : MpuEvent} (h : s.Lighting e) :
    s.l_xout + 1201 ≤ (s.step e).l_xout := by
  obtain ⟨hstep, hlit⟩ := h
  obtain ⟨hrunning, p, rfl⟩ := running_of_running_step hstep
  rw [Lit, step, if_pos hrunning] at hlit
  rw [step, if_pos hrunning]
  have hrise := of_decide_eq_true (Pin.output.inj hlit)
  dsimp only
  omega

theorem rise_of_steps {s : Mpu6050} {es : List MpuEvent} (h : Steps step Lighting s es) :
    s.l_xout + 1201 * es.length ≤ (run step s es).l_xout := by
  induction es generalizing s with
  | nil => simp
  | cons e es ih =>
    have hfirst := rise_of_lighting h.1
    have hrest := ih h.2
    rw [run_cons, List.length_cons]
    push_cast
    omega

/-- **Never for long.** In every run, whatever the sensor says, at most 54 passes in a row light
the light: the values they read would have to rise out of their range. -/
theorem lit_at_most (first : Pass) (pre es : List MpuEvent)
    (h : Steps step Lighting (run step (init first) pre) es) : es.length ≤ 54 := by
  have hinit : (init first).InRange := read_word_2c_range first.gyro_xout
  have hrange := invariant (fun s e hs => inRange_step s e hs) hinit
  have hrise := rise_of_steps h
  have hbefore := (hrange pre).1
  have hafter := (hrange (pre ++ es)).2
  rw [run_append] at hafter
  omega

/-- The word of a number. -/
def word (n : ℕ) : Word := ⟨BitVec.ofNat 8 (n / 256), BitVec.ofNat 8 n⟩

/-- Passes that read numbers further and further from the least one. -/
def ramp (n : ℕ) : List MpuEvent :=
  (List.range n).map fun k => .pass ⟨word (0x8000 + 1201 * (k + 1)), word 0, word 0⟩

/-- There are runs with 54. -/
theorem lit_at_most_ramp :
    Steps step Lighting (run step (init ⟨word 0x8000, word 0, word 0⟩) []) (ramp 54) ∧
      (ramp 54).length ≤ 54 := by
  have hramp : Steps step Lighting (run step (init ⟨word 0x8000, word 0, word 0⟩) []) (ramp 54) := by
    decide +kernel
  exact ⟨hramp, lit_at_most _ [] _ hramp⟩

end Mpu6050

/-! ## A register that changes while it is read -/

/-- What the register of the rotation holds when each of its bytes is read, and the other words
of the pass. -/
structure Sample where
  at_high : BitVec 16
  at_low : BitVec 16
  gyro_yout : Word
  gyro_zout : Word

namespace Sample

def gyro_xout (r : Sample) : Word := ⟨r.at_high.extractLsb' 8 8, r.at_low.setWidth 8⟩

def pass (r : Sample) : Pass := ⟨r.gyro_xout, r.gyro_yout, r.gyro_zout⟩

/-- A register that does not change is read as it is. -/
theorem read_steady (v : BitVec 16) :
    read_word_2c ⟨v.extractLsb' 8 8, v.setWidth 8⟩ = v.toInt := by
  have hbytes : v.extractLsb' 8 8 ++ v.setWidth 8 = v := by
    apply BitVec.eq_of_toNat_eq
    have hv := v.isLt
    rw [BitVec.toNat_append, ← Nat.shiftLeft_add_eq_or_of_lt (v.setWidth 8).isLt, Nat.shiftLeft_eq,
      BitVec.extractLsb'_toNat, BitVec.toNat_setWidth, Nat.shiftRight_eq_div_pow]
    omega
  rw [read_word_2c_eq]
  exact congrArg BitVec.toInt hbytes

/-- One that does is read with an error of 255 at most. -/
theorem read_torn (r : Sample) :
    read_word_2c r.gyro_xout ≤ r.at_high.toInt + 255 ∧
      r.at_high.toInt ≤ read_word_2c r.gyro_xout + 255 := by
  rw [← read_steady r.at_high]
  exact ⟨read_word_2c_low _ _ _, read_word_2c_low _ _ _⟩

/-- How far the register has risen from each pass to the next, and `v` before the first. -/
def rises (v : BitVec 16) : List Sample → List ℤ
  | [] => []
  | r :: rs => (r.at_high.toInt - v.toInt) :: rises r.at_high rs

end Sample

namespace Mpu6050

/-- Whether the light is on, after each pass. -/
def levels (s : Mpu6050) (samples : List Sample) : List Bool :=
  emitted step (fun s e => [decide (s.step e).Lit]) s (samples.map fun r => .pass r.pass)

theorem levels_cons (s : Mpu6050) (r : Sample) (samples : List Sample) :
    s.levels (r :: samples)
      = decide (s.step (.pass r.pass)).Lit :: (s.step (.pass r.pass)).levels samples := rfl

theorem lit_pass {s : Mpu6050} (hs : s.running = true) (p : Pass) :
    (s.step (.pass p)).Lit ↔ s.l_xout + 1200 < read_word_2c p.gyro_xout := by
  rw [Lit, step, if_pos hs]
  dsimp only
  rw [Pin.output.injEq, decide_eq_true_iff]
  omega

/-- **What the light says of the register.** In every run without an exception, whatever the
register does while its bytes are read: if it has risen by more than 1710 from one pass to the
next the light is on, and if the light is on it has risen by more than 690. -/
theorem levels_torn (first : Sample) (samples : List Sample) :
    List.Forall₂ (fun rise lit => (1710 < rise → lit = true) ∧ (lit = true → 690 < rise))
      (Sample.rises first.at_high samples) ((init first.pass).levels samples) := by
  have hgeneral : ∀ (v : BitVec 16) (s : Mpu6050), s.running = true →
      s.l_xout ≤ v.toInt + 255 → v.toInt ≤ s.l_xout + 255 →
      List.Forall₂ (fun rise lit => (1710 < rise → lit = true) ∧ (lit = true → 690 < rise))
        (Sample.rises v samples) (s.levels samples) := by
    induction samples with
    | nil => exact fun _ _ _ _ _ => .nil
    | cons r samples ih =>
      intro v s hs hbelow habove
      obtain ⟨hread, hread'⟩ := r.read_torn
      have hlit := lit_pass hs r.pass
      have hstep : s.step (.pass r.pass)
          = ⟨read_word_2c r.gyro_xout, .output (decide (read_word_2c r.gyro_xout - s.l_xout > 1200)),
            true⟩ := by
        rw [step, if_pos hs, ← hs]
        rfl
      rw [levels_cons, Sample.rises]
      refine .cons ?_ (ih r.at_high _ ?_ ?_ ?_)
      · rw [decide_eq_true_iff, hlit]
        dsimp only [Sample.pass]
        constructor
        · intro h
          omega
        · intro h
          omega
      · rw [hstep]
      · rw [hstep]
        exact hread
      · rw [hstep]
        exact hread'
  obtain ⟨hread, hread'⟩ := first.read_torn
  exact hgeneral first.at_high (init first.pass) rfl hread hread'

end Mpu6050

end SmartBike.Lights
