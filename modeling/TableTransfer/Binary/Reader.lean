import TableTransfer.Binary.Basic
import TableTransfer.Text.Number

namespace TableTransfer.Binary

/-- The magnitude nearest to `n * 10 ^ k`. Beyond a thousand places nothing is left to round. -/
def Format.nearestDecimal (f : Format) (n : Nat) (k : Int) : Nat :=
  let size : Int := (Text.digits n).length + k
  if n = 0 ∨ size < -1000 then 0
  else if 1000 < size then f.infinity
  else f.nearest (n * tenTo k.toNat) (tenTo (-k).toNat)

def mantissa? (cs : List Char) : Option (Nat × Nat) :=
  let whole := cs.takeWhile Char.isDigit
  match cs.dropWhile Char.isDigit with
  | [] => if whole.isEmpty then none else some (Text.ofDigits whole, 0)
  | '.' :: places =>
    if places.all Char.isDigit && !(whole.isEmpty && places.isEmpty) then
      some (Text.ofDigits (whole ++ places), places.length)
    else none
  | _ => none

def isExponentMark (c : Char) : Bool := c == 'e' || c == 'E'

def scientific? (cs : List Char) : Option (Nat × Int) := do
  let (n, places) ← mantissa? (cs.takeWhile fun c => !isExponentMark c)
  match cs.dropWhile fun c => !isExponentMark c with
  | [] => return (n, -places)
  | _ :: power => return (n, (← Text.int? power) - places)

def Format.magnitude? (f : Format) (cs : List Char) : Option Nat :=
  match String.ofList (cs.map Char.toLower) with
  | "inf" | "infinity" => some f.infinity
  | "nan" => some (f.infinity + twoTo (f.fraction - 1))
  | _ => (scientific? cs).map fun (n, k) => f.nearestDecimal n k

end Binary

/-- A number in decimal notation, `inf`, `infinity` or `nan`, after at most one sign. -/
def Binary64.ofText? : List Char → Option Binary64
  | '-' :: cs => (Binary.double.magnitude? cs).map (.ofMagnitude true)
  | '+' :: cs => (Binary.double.magnitude? cs).map (.ofMagnitude false)
  | cs => (Binary.double.magnitude? cs).map (.ofMagnitude false)

end TableTransfer
