import Mathlib
import TableTransfer.Decimal.Text
import TableTransfer.Proofs.Decimal.Exact
import TableTransfer.Proofs.Text.Digits

namespace TableTransfer

def Text.digitsOf (cs : List Char) : List Char := cs.filter Char.isDigit

structure Numeral where
  negative : Bool
  whole : List Char
  places : List Char
  powerNegative : Bool := false
  power : List Char := []

namespace Numeral

def splitSign : List Char → Bool × List Char
  | '-' :: cs => (true, cs)
  | '+' :: cs => (false, cs)
  | cs => (false, cs)

def ofPlain (cs : List Char) : Numeral where
  negative := (splitSign cs).1
  whole := (splitSign cs).2.takeWhile (· != '.')
  places := ((splitSign cs).2.dropWhile (· != '.')).tail

/-- The power of ten is what follows the first letter `e`. A plus before its digits says nothing. -/
def ofText (cs : List Char) : Numeral :=
  let power := splitSign (cs.dropWhile fun c => !Decimal.isPowerMark c).tail
  { ofPlain (cs.takeWhile fun c => !Decimal.isPowerMark c) with
    powerNegative := power.1
    power := power.2.dropWhile (· == '+') }

/-- Nothing but digits and separators stands around the point, with one digit at least. -/
structure IsProper (n : Numeral) : Prop where
  whole : ∀ c ∈ n.whole, Decimal.isDigitOrSeparator c = true
  places : ∀ c ∈ n.places, Decimal.isDigitOrSeparator c = true
  digit : ∃ c ∈ n.whole ++ n.places, c.isDigit = true
  power : ∀ c ∈ n.power, c.isDigit = true

variable (n : Numeral)

def magnitude : Nat := Text.ofDigits (Text.digitsOf (n.whole ++ n.places))

def scale : Nat := (Text.digitsOf n.places).length

def signed : ℤ := if n.negative then -n.magnitude else n.magnitude

def base : ℚ := n.signed / tenTo n.scale

def exponent : ℤ := if n.powerNegative then -(Text.ofDigits n.power) else Text.ofDigits n.power

def toRat : ℚ := n.base * 10 ^ n.exponent

theorem signed_natAbs : n.signed.natAbs = n.magnitude := by
  rw [signed]
  split <;> omega

end Numeral

namespace Decimal

def toRat (d : Decimal) : ℚ := d.signed / tenTo d.scale

/-- There is a decimal for the number. -/
def IsHeld (q : ℚ) : Prop := ∃ d : Decimal, d.toRat = q

theorem cast_tenTo (k : Nat) : ((tenTo k : Nat) : ℚ) = 10 ^ k := by
  rw [tenTo, Nat.pow_eq]
  norm_num

theorem cast_tenTo_ne_zero (k : Nat) : ((tenTo k : Nat) : ℚ) ≠ 0 :=
  Nat.cast_ne_zero.2 (tenTo_pos k).ne'

theorem toRat_eq_iff {d : Decimal} {n : ℤ} {k : Nat} :
    d.toRat = n / tenTo k ↔ d.signed * tenTo k = n * tenTo d.scale := by
  rw [toRat, div_eq_div_iff (cast_tenTo_ne_zero _) (cast_tenTo_ne_zero _)]
  exact_mod_cast Iff.rfl

end Decimal

end TableTransfer
