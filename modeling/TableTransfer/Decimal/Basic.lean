import TableTransfer.Arithmetic

namespace TableTransfer

def Decimal.limit : Nat := 0x1000000000000000000000000

structure Decimal where
  negative : Bool
  coefficient : Nat
  scale : Nat
  coefficient_lt : coefficient < Decimal.limit := by decide
  scale_le : scale ≤ 28 := by decide
deriving DecidableEq

namespace Decimal

def signed (d : Decimal) : Int := if d.negative then -d.coefficient else d.coefficient

/-- Both stand for one number, whatever their scales. -/
def SameNumber (d e : Decimal) : Prop := d.signed * tenTo e.scale = e.signed * tenTo d.scale

instance (d e : Decimal) : Decidable (SameNumber d e) := inferInstanceAs (Decidable (_ = _))

/-- `n * 10 ^ -scale`, if coefficient and scale are in range. -/
def ofScaled? (n : Int) (scale : Nat) : Option Decimal :=
  if h : n.natAbs < limit ∧ scale ≤ 28 then some ⟨n < 0, n.natAbs, scale, h.1, h.2⟩ else none

def ofNat (negative : Bool) (n : Nat) (h : n < limit) : Decimal :=
  { negative, coefficient := n, scale := 0, coefficient_lt := h }

def ofInt64 (n : Int64) : Decimal :=
  ofNat (n.toInt < 0) n.toInt.natAbs <| by
    have := n.le_toInt
    have := n.toInt_lt
    simp only [limit]
    omega

def isWhole (d : Decimal) : Bool := d.coefficient % tenTo d.scale = 0

def whole (d : Decimal) : Int :=
  let n : Int := (d.coefficient / tenTo d.scale : Nat)
  if d.negative then -n else n

theorem signed_natAbs (d : Decimal) : d.signed.natAbs = d.coefficient := by
  simp only [signed]; split <;> omega

theorem SameNumber.refl (d : Decimal) : d.SameNumber d := rfl

theorem SameNumber.symm {d e : Decimal} (h : d.SameNumber e) : e.SameNumber d := Eq.symm h

theorem signed_ofInt64 (n : Int64) : (ofInt64 n).signed = n.toInt := by
  simp only [signed, ofInt64, ofNat, decide_eq_true_eq]
  split <;> omega

end Decimal

end TableTransfer
