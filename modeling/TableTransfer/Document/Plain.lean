import TableTransfer.Binary.Reader
import TableTransfer.Document.Basic
import TableTransfer.Text.Basic
import TableTransfer.Text.Number

namespace TableTransfer.Plain

def isNullWord (s : String) : Bool := ["~", "null", "Null", "NULL"].contains s

def isNull (s : String) : Bool := s == "" || isNullWord s

def bool? (s : String) : Option Bool :=
  if ["true", "True", "TRUE"].contains s then some true
  else if ["false", "False", "FALSE"].contains s then some false
  else none

def digitsIn? (base : Nat) (cs : List Char) : Option Nat :=
  if cs.isEmpty then none
  else
    cs.foldl (fun acc c => do
      let n ← acc
      let d ← Text.hexValue? c
      if d < base then some (base * n + d) else none) (some 0)

/-- Decimal digits, without a zero before other digits, or digits of the base that a mark after
a zero names. -/
def magnitude? : List Char → Option Nat
  | '0' :: 'x' :: cs => digitsIn? 16 cs
  | '0' :: 'o' :: cs => digitsIn? 8 cs
  | '0' :: 'b' :: cs => digitsIn? 2 cs
  | ['0'] => some 0
  | '0' :: _ => none
  | cs => Text.nat? cs

def nat? (s : String) : Option Nat :=
  match s.toList with
  | '+' :: cs => magnitude? cs
  | cs => magnitude? cs

def int? (s : String) : Option Int :=
  match s.toList with
  | '-' :: cs => do
    let n ← magnitude? cs
    if n ≤ 0x80000000000000000000000000000000 then some (-(n : Int)) else none
  | _ => do
    let n ← nat? s
    if n ≤ 0xffffffffffffffffffffffffffffffff then some (n : Int) else none

def isZeroPadded (cs : List Char) : Bool :=
  match cs with
  | '0' :: c :: cs => (c :: cs).all Char.isDigit
  | _ => false

def real? (s : String) : Option Binary64 :=
  let unsigned := match s.toList with
    | '-' :: cs | '+' :: cs => cs
    | cs => cs
  let negative := s.toList.head? == some '-'
  match String.ofList unsigned with
  | ".inf" | ".Inf" | ".INF" => some (.ofMagnitude negative Binary.double.infinity)
  | ".nan" | ".NaN" | ".NAN" => if unsigned.length = s.length then some .nan else none
  | _ =>
    if isZeroPadded unsigned then none
    else (Binary64.ofText? s.toList).filter Binary64.isFinite

def resolve (s : String) : Document :=
  if isNull s then .null
  else
    match bool? s with
    | some b => .bool b
    | none =>
      match int? s with
      | some n => .int n
      | none =>
        match real? s with
        | some x => .real x
        | none => .text s

end TableTransfer.Plain
