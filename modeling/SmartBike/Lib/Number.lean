/-
The numbers of JavaScript, as far as JSON makes and writes them.

A number is the one nearest to the decimal it is written as, of two equally near ones the one with
the even mantissa. It is written with the fewest digits that stand for it, and of these with the
digits that come nearest.
-/
import SmartBike.Lib.JsValue
import Mathlib.Data.Nat.Log
import Mathlib.Algebra.Order.Group.Int
import Mathlib.Algebra.Ring.Nat

set_option autoImplicit false

namespace Js

/-- `mantissa * 2 ^ exponent`, with 53 bits, or what lies beyond all of these. -/
inductive Number where
  | finite (negative : Bool) (mantissa : ℕ) (exponent : ℤ)
  | infinite (negative : Bool)
  deriving DecidableEq, Repr

namespace Number

def isZero : Number → Bool
  | .finite _ mantissa _ => mantissa = 0
  | .infinite _ => false

/-- `a / b` to the nearest integer, in the middle to the even one. -/
def roundEven (a b : ℕ) : ℕ :=
  if 2 * (a % b) < b ∨ 2 * (a % b) = b ∧ a / b % 2 = 0 then a / b else a / b + 1

/-- `base ^ e` as a fraction. -/
def power (base : ℕ) (e : ℤ) : ℕ × ℕ := (base ^ e.toNat, base ^ (-e).toNat)

/-- The exponent of the last of the 53 bits of `a / b`. -/
def lastBit (a b : ℕ) : ℤ :=
  let e : ℤ := Nat.log2 a - Nat.log2 b - 53
  let p := power 2 e
  max (if a * p.2 / (b * p.1) < 2 ^ 53 then e else e + 1) (-1074)

/-- The number nearest to `a / b`. -/
def ofFraction (negative : Bool) (a b : ℕ) : Number :=
  let e := lastBit a b
  let p := power 2 e
  let mantissa := roundEven (a * p.2) (b * p.1)
  if mantissa = 0 then .finite negative 0 0
  else
    let n : ℕ × ℤ := if mantissa = 2 ^ 53 then (2 ^ 52, e + 1) else (mantissa, e)
    if 971 < n.2 then .infinite negative else .finite negative n.1 n.2

/-- The number that `digits * 10 ^ exponent` stands for. -/
def ofDecimal (negative : Bool) (digits : ℕ) (exponent : ℤ) : Number :=
  let p := power 10 exponent
  if digits = 0 then .finite negative 0 0 else ofFraction negative (digits * p.1) p.2

/-- The exponent of the first digit of `a / b`, by which `10 ^ (n - 1) ≤ a / b < 10 ^ n`. -/
def firstDigit (a b : ℕ) : ℤ :=
  let n : ℤ := Nat.log 10 a - Nat.log 10 b
  let p := power 10 n
  if b * p.1 ≤ a * p.2 then n + 1 else n

/-- What stands for the number with `k` digits: the two next to it, the nearer one first. -/
def candidates (a b : ℕ) (k : ℕ) : List (ℕ × ℤ) :=
  let e := firstDigit a b - k
  let p := power 10 e
  let s := a * p.2 / (b * p.1)
  if roundEven (a * p.2) (b * p.1) = s then [(s, e), (s + 1, e)] else [(s + 1, e), (s, e)]

/-- The digits without the zeros at their end. -/
def strip : ℕ → ℕ × ℤ → ℕ × ℤ
  | 0, d => d
  | fuel + 1, d => if d.1 % 10 = 0 then strip fuel (d.1 / 10, d.2 + 1) else d

/-- The shortest decimal for the number; 17 digits are always enough. -/
def shortest (mantissa : ℕ) (exponent : ℤ) : ℕ × ℤ :=
  let p := power 2 exponent
  let a := mantissa * p.1
  let all := (List.range 17).flatMap fun k => candidates a p.2 (k + 1)
  let d := all.find? fun d => ofDecimal false d.1 d.2 = .finite false mantissa exponent
  strip 17 (d.getD (mantissa, exponent))

/-- `digits * 10 ^ exponent`, with a point or an exponent where there would be more than 21 places
before the point or more than 6 behind it. -/
def layout (digits : List Char) (exponent : ℤ) : List Char :=
  let n : ℤ := digits.length + exponent
  if 0 ≤ exponent ∧ n ≤ 21 then digits ++ List.replicate exponent.toNat '0'
  else if 0 < n ∧ n ≤ 21 then digits.take n.toNat ++ '.' :: digits.drop n.toNat
  else if -6 < n ∧ n ≤ 0 then '0' :: '.' :: (List.replicate (-n).toNat '0' ++ digits)
  else
    let sign := if 0 < n then '+' else '-'
    let point := if digits.length = 1 then digits else digits.take 1 ++ '.' :: digits.drop 1
    point ++ 'e' :: sign :: Nat.toDigits 10 (n - 1).natAbs

/-- `String(n)`. -/
def toString : Number → List Char
  | .infinite negative => (if negative then ['-'] else []) ++ "Infinity".toList
  | .finite negative mantissa exponent =>
    if mantissa = 0 then ['0']
    else
      let d := shortest mantissa exponent
      (if negative then ['-'] else []) ++ layout (Nat.toDigits 10 d.1) d.2

def numbers : Numbers Number where
  text := toString
  json n := match n with
    | .infinite _ => "null".toList
    | n => toString n
  isZero := isZero

example : toString (ofDecimal false 10 (-1)) = "1".toList := by decide +kernel

example : toString (ofDecimal true 30000000000000004 (-17)) = "-0.30000000000000004".toList := by
  decide +kernel

example : toString (ofDecimal false 1 23) = "1e+23".toList := by decide +kernel

end Number

end Js
