import TableTransfer.Binary.Basic
import TableTransfer.Decimal.Text

namespace TableTransfer

namespace Binary64

def quotient (x : Binary64) : Nat × Nat :=
  let (m, e) := Binary.double.decode x.magnitude
  Binary.quotient m e

def ofQuotient (num den : Nat) : Binary64 := ofMagnitude false (Binary.double.nearest num den)

def add (x y : Binary64) : Binary64 :=
  let (a, b) := x.quotient
  let (c, d) := y.quotient
  ofQuotient (a * d + c * b) (b * d)

def mul (x y : Binary64) : Binary64 :=
  let (a, b) := x.quotient
  let (c, d) := y.quotient
  ofQuotient (a * c) (b * d)

def div (x y : Binary64) : Binary64 :=
  let (a, b) := x.quotient
  let (c, d) := y.quotient
  ofQuotient (a * d) (b * c)

def toWhole (x : Binary64) : Binary64 :=
  let (a, b) := x.quotient
  ofQuotient (roundHalfUp a b) 1

end Binary64

namespace Decimal

/-- The whole part and the places are rounded apart and added, and the sum is rounded again to
as many places as the decimal has. -/
def toBinary64 (d : Decimal) : Binary64 :=
  let unit := Binary64.ofQuotient (tenTo d.scale) 1
  let whole := Binary64.ofQuotient (d.coefficient / tenTo d.scale) 1
  let places := (Binary64.ofQuotient (d.coefficient % tenTo d.scale) 1).div unit
  let sum :=
    if d.coefficient % tenTo d.scale = 0 then whole
    else (((whole.add places).mul unit).toWhole).div unit
  .ofMagnitude (d.negative && d.scale != 0 || d.signed < 0) sum.magnitude

def toBinary32 (d : Decimal) : Binary32 := d.toBinary64.narrow

structure Scaled where
  coefficient : Nat
  ten : Int

/-- Divided by two, `steps` times, from `ten = -steps` on: an odd coefficient is multiplied by
five instead, or halved with loss where there is no room for that. -/
def Scaled.lower (x : Scaled) : Nat → Scaled
  | 0 => x
  | steps + 1 =>
    if x.coefficient % 2 = 0 then lower ⟨x.coefficient / 2, x.ten + 1⟩ steps
    else if x.coefficient * 5 < limit then lower ⟨x.coefficient * 5, x.ten⟩ steps
    else lower ⟨x.coefficient / 2, x.ten + 1⟩ steps

def Scaled.dropPlace (x : Scaled) : Scaled := ⟨roundHalfUp x.coefficient 10, x.ten + 1⟩

def Scaled.limitPlaces (x : Scaled) : Nat → Scaled
  | 0 => x
  | fuel + 1 =>
    if x.ten < -28 then
      if x.coefficient < 10 then limitPlaces ⟨0, 0⟩ fuel else limitPlaces x.dropPlace fuel
    else x

def Scaled.limitDigits (x : Scaled) : Nat → Scaled
  | 0 => x
  | fuel + 1 => if x.ten < 0 ∧ twoTo 52 ≤ x.coefficient then limitDigits x.dropPlace fuel else x

/-- A whole number exactly, and another finite number cut to fifteen or sixteen digits. -/
def ofBinary64? (x : Binary64) : Option Decimal :=
  if !x.isFinite then none
  else if x.magnitude = 0 then some (ofNat x.negative 0 (by decide))
  else
    let (m, e) := Binary.double.decode x.magnitude
    if 0 ≤ e then
      let n := m * twoTo e.toNat
      if h : n < limit then some (ofNat x.negative n h) else none
    else
      let start : Scaled := ⟨m, e⟩
      let y := ((start.lower (-e).toNat).limitPlaces 1200).limitDigits 30
      if h : y.coefficient < limit ∧ (-y.ten).toNat ≤ 28 then
        some (strip ⟨x.negative && y.coefficient != 0, y.coefficient, (-y.ten).toNat, h.1, h.2⟩ 28)
      else none

end Decimal

end TableTransfer
