import TableTransfer.Decimal.Basic

namespace TableTransfer

def twosComplement : Nat → Int → List UInt8
  | 0, _ => []
  | width + 1, n => twosComplement width (n / 256) ++ [UInt8.ofNat (n % 256).toNat]

/-- The number that bytes in two's complement stand for; none stand for zero. -/
def ofTwosComplement : List UInt8 → Int
  | [] => 0
  | first :: rest =>
    let start : Int := if first < 128 then first.toNat else first.toNat - 256
    rest.foldl (fun n b => 256 * n + b.toNat) start

def signByte (b : UInt8) : UInt8 := if b < 128 then 0 else 255

def dropSign : List UInt8 → List UInt8
  | b :: next :: rest => if b = signByte next then dropSign (next :: rest) else b :: next :: rest
  | bytes => bytes

def extendSign (width : Nat) : List UInt8 → List UInt8
  | [] => []
  | b :: rest => List.replicate (width - (rest.length + 1)) (signByte b) ++ b :: rest

namespace Decimal

/-- The coefficient is a word of sixteen bytes, of which those that tell nothing are left out. -/
def unscaledBytes (d : Decimal) : List UInt8 := dropSign (twosComplement 16 d.signed)

/-- Between one and sixteen bytes read at the given scale, if coefficient and scale fit. -/
def ofUnscaledBytes? (bytes : List UInt8) (scale : Nat) : Option Decimal :=
  if bytes.isEmpty || 16 < bytes.length then none
  else ofScaled? (ofTwosComplement (extendSign 16 bytes)) scale

end Decimal

end TableTransfer
