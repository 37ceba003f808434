import TableTransfer.Arithmetic

namespace TableTransfer.Binary

structure Format where
  fraction : Nat
  exponent : Nat

def single : Format := ⟨23, 8⟩

def double : Format := ⟨52, 11⟩

namespace Format

variable (f : Format)

def infinity : Nat := (twoTo f.exponent - 1) * twoTo f.fraction

def least : Int := 2 - twoTo (f.exponent - 1) - f.fraction

/-- A finite magnitude as `m * 2 ^ e`. -/
def decode (magnitude : Nat) : Nat × Int :=
  let biased := magnitude / twoTo f.fraction
  if biased = 0 then (magnitude, f.least)
  else (magnitude % twoTo f.fraction + twoTo f.fraction, f.least + biased - 1)

/-- The magnitude nearest to `num / den`, ties going to the even pattern. -/
def nearest (num den : Nat) : Nat :=
  if num = 0 then 0 else
  let guess : Int := (num.log2 : Int) - den.log2 - f.fraction
  let fits := den * twoTo guess.toNat * twoTo f.fraction ≤ num * twoTo (-guess).toNat
  let e := max (if fits then guess else guess - 1) f.least
  let q := roundHalfEven (num * twoTo (-e).toNat) (den * twoTo e.toNat)
  min (q + (e - f.least).toNat * twoTo f.fraction) f.infinity

end Format

def quotient (m : Nat) (e : Int) : Nat × Nat := (m * twoTo e.toNat, twoTo (-e).toNat)

end Binary

structure Binary64 where
  bits : UInt64
deriving DecidableEq

structure Binary32 where
  bits : UInt32
deriving DecidableEq

namespace Binary64

def negative (x : Binary64) : Bool := twoTo 63 ≤ x.bits.toNat

def magnitude (x : Binary64) : Nat := x.bits.toNat % twoTo 63

def ofMagnitude (negative : Bool) (magnitude : Nat) : Binary64 :=
  ⟨UInt64.ofNat (magnitude + if negative then twoTo 63 else 0)⟩

def isFinite (x : Binary64) : Bool := x.magnitude < Binary.double.infinity

def isNaN (x : Binary64) : Bool := Binary.double.infinity < x.magnitude

def nan : Binary64 := ⟨0x7ff8000000000000⟩

def ofInt (n : Int) : Binary64 := ofMagnitude (n < 0) (Binary.double.nearest n.natAbs 1)

end Binary64

namespace Binary32

def negative (x : Binary32) : Bool := twoTo 31 ≤ x.bits.toNat

def magnitude (x : Binary32) : Nat := x.bits.toNat % twoTo 31

def ofMagnitude (negative : Bool) (magnitude : Nat) : Binary32 :=
  ⟨UInt32.ofNat (magnitude + if negative then twoTo 31 else 0)⟩

def isNaN (x : Binary32) : Bool := Binary.single.infinity < x.magnitude

def nan : Binary32 := ⟨0x7fc00000⟩

def ofInt (n : Int) : Binary32 := ofMagnitude (n < 0) (Binary.single.nearest n.natAbs 1)

end Binary32

def Binary64.narrow (x : Binary64) : Binary32 :=
  if x.isNaN then .nan
  else if x.isFinite then
    let (m, e) := Binary.double.decode x.magnitude
    let (num, den) := Binary.quotient m e
    .ofMagnitude x.negative (Binary.single.nearest num den)
  else .ofMagnitude x.negative Binary.single.infinity

def Binary32.widen (x : Binary32) : Binary64 :=
  if x.isNaN then .nan
  else if x.magnitude < Binary.single.infinity then
    let (m, e) := Binary.single.decode x.magnitude
    let (num, den) := Binary.quotient m e
    .ofMagnitude x.negative (Binary.double.nearest num den)
  else .ofMagnitude x.negative Binary.double.infinity

end TableTransfer
