import TableTransfer.Decimal.Rescale
import TableTransfer.Text.Number

namespace TableTransfer.Decimal

def text (d : Decimal) : String :=
  let sign := if d.negative then ['-'] else []
  let whole := Text.digits (d.coefficient / tenTo d.scale)
  let places :=
    if d.scale = 0 then [] else '.' :: Text.padded d.scale (d.coefficient % tenTo d.scale)
  String.ofList (sign ++ whole ++ places)

inductive TextFault where
  | empty
  | noDigits
  | secondPoint
  | leadingSeparator
  | unknownCharacter
  | tooManyDigits
  | roundedOut
  | badPower
  | powerBeyondScale (power : Nat)
  | tooLarge
deriving DecidableEq

def TextFault.message : TextFault → String
  | empty => "Invalid decimal: empty"
  | noDigits => "Invalid decimal: no digits found"
  | secondPoint => "Invalid decimal: two decimal points"
  | leadingSeparator => "Invalid decimal: must start lead with a number"
  | unknownCharacter => "Invalid decimal: unknown character"
  | tooManyDigits => "Invalid decimal: overflow from too many digits"
  | roundedOut => "Invalid decimal: overflow from mantissa after rounding"
  | badPower => "Failed to parse"
  | powerBeyondScale power =>
    "Scale exceeds the maximum precision allowed: " ++ Text.intText power ++ " > 28"
  | tooLarge => "Number exceeds maximum value that can be represented."

structure Progress where
  coefficient : Nat := 0
  scale : Nat := 0
  point : Bool := false
  digits : Bool := false

def Progress.finish (p : Progress) (negative : Bool) : Except TextFault Decimal :=
  if !p.digits then .error .noDigits
  else if h : p.coefficient < limit ∧ p.scale ≤ 28 then
    .ok ⟨negative && p.coefficient != 0, p.coefficient, p.scale, h.1, h.2⟩
  else .error .roundedOut

def faultOf (c : Char) : TextFault :=
  match c with
  | '.' => .secondPoint
  | '_' => .leadingSeparator
  | _ => .unknownCharacter

def isDigitOrSeparator (c : Char) : Bool := c.isDigit || c == '_'

/-- There is no room for the first of the characters: a digit rounds those before it, a five up,
and a separator does not. Nothing but digits and separators may follow. -/
def Progress.round (p : Progress) (negative : Bool) (cs : List Char) : Except TextFault Decimal :=
  match cs.find? fun c => !isDigitOrSeparator c with
  | some c => .error (faultOf c)
  | none =>
    let up := cs.head?.any fun c => c.isDigit && 5 ≤ Text.digitValue c
    let n := p.coefficient + up.toNat
    if n < limit then { p with coefficient := n }.finish negative
    else if p.scale = 0 then .error .roundedOut
    else { p with coefficient := (n + 4) / 10, scale := p.scale - 1 }.finish negative

def Progress.isLong (p : Progress) : Bool := 1844674407370954906 ≤ p.coefficient / 10

/-- What is left after the last place that there is room for. In a long number the digit that
rounds is looked for behind separators. -/
def Progress.close (p : Progress) (negative : Bool) (cs : List Char) : Except TextFault Decimal :=
  match if p.isLong then cs.dropWhile (· == '_') else cs with
  | [] => p.finish negative
  | cs => p.round negative cs

def Progress.read (p : Progress) (negative : Bool) : List Char → Except TextFault Decimal
  | [] => p.finish negative
  | c :: cs =>
    if p.point && 28 ≤ p.scale then p.close negative (c :: cs)
    else if c.isDigit then
      let n := 10 * p.coefficient + Text.digitValue c
      if n < limit then
        { p with coefficient := n, scale := p.scale + p.point.toNat, digits := true }.read
          negative cs
      else if p.point then p.round negative (c :: cs)
      else .error .tooManyDigits
    else if c == '.' && !p.point then { p with point := true }.read negative cs
    else if c == '_' && p.digits then p.read negative cs
    else .error (faultOf c)

def ofPlainText : List Char → Except TextFault Decimal
  | [] => .error .empty
  | '-' :: cs => Progress.read {} true cs
  | '+' :: cs => Progress.read {} false cs
  | cs => Progress.read {} false cs

def strip (d : Decimal) : Nat → Decimal
  | 0 => d
  | fuel + 1 =>
    if h : 0 < d.scale ∧ d.coefficient % 10 = 0 then
      strip ⟨d.negative, d.coefficient / 10, d.scale - 1,
        by have := d.coefficient_lt; omega, by have := d.scale_le; omega⟩ fuel
    else d

/-- `d` with its scale grown by `power`. Where there is no room for the scale, the last places
are rounded off, a half going up. -/
def divideByPower (d : Decimal) (power : Nat) : Except TextFault Decimal :=
  if power > 28 then .error (.powerBeyondScale power)
  else if h : d.scale + power ≤ 28 then
    .ok ⟨d.negative, d.coefficient, d.scale + power, d.coefficient_lt, h⟩
  else
    .ok {
      negative := d.negative
      coefficient := roundHalfUp d.coefficient (tenTo (d.scale + power - 28))
      scale := 28
      coefficient_lt := lt_limit_of_le d.coefficient_lt (by omega) (roundHalfUp_le ..) }

def multiplyByPower (d : Decimal) (power : Nat) : Except TextFault Decimal :=
  if power ≤ d.scale then
    .ok ⟨d.negative, d.coefficient, d.scale - power, d.coefficient_lt,
      by have := d.scale_le; omega⟩
  else if power > 28 then .error (.powerBeyondScale power)
  else
    let s := d.strip 28
    let zeros := power - s.scale
    if h : s.coefficient * tenTo zeros < limit then
      .ok (ofNat s.negative (s.coefficient * tenTo zeros) h)
    else .error .tooLarge

def isPowerMark (c : Char) : Bool := c == 'e' || c == 'E'

def unsigned (cs : List Char) : List Char := if cs.head? = some '+' then cs.tail else cs

def power? (cs : List Char) : Option Nat :=
  (Text.nat? (unsigned cs)).filter fun n => n ≤ 0xffffffff

/-- A decimal in plain notation or with a power of ten after an `e`, which may have a sign of
its own before that of its number. -/
def ofText (cs : List Char) : Except TextFault Decimal :=
  match cs.dropWhile fun c => !isPowerMark c with
  | [] => ofPlainText cs
  | _ :: power => do
    let d ← ofPlainText (cs.takeWhile fun c => !isPowerMark c)
    match power with
    | '-' :: ds =>
      match power? ds with
      | some n => d.divideByPower n
      | none => throw .badPower
    | ds =>
      match power? (unsigned ds) with
      | some n => d.multiplyByPower n
      | none => throw .badPower

def ofText? (cs : List Char) : Option Decimal := (ofText cs).toOption

end TableTransfer.Decimal
