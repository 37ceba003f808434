import TableTransfer.Binary.Reader
import TableTransfer.Document.Basic
import TableTransfer.Text.Number

namespace TableTransfer.Json

def isSpace (c : Char) : Bool := c == ' ' || c == '\n' || c == '\r' || c == '\t'

def skip (cs : List Char) : List Char := cs.dropWhile isSpace

def unit? : List Char → Option (Nat × List Char)
  | a :: b :: c :: d :: rest => (Text.hexNat? [a, b, c, d]).map (·, rest)
  | _ => none

def lowUnit? : List Char → Option (Nat × List Char)
  | '\\' :: 'u' :: cs => (unit? cs).filter fun (low, _) => 0xDC00 ≤ low && low ≤ 0xDFFF
  | _ => none

/-- What follows a backslash: one character and the rest. A unit from the upper half of the
surrogates needs one from the lower half after it; without, neither is a character. -/
def escaped? : List Char → Option (Option Char × List Char)
  | '\"' :: cs => some ('\"', cs)
  | '\\' :: cs => some ('\\', cs)
  | '/' :: cs => some ('/', cs)
  | 'b' :: cs => some ('\x08', cs)
  | 'f' :: cs => some ('\x0c', cs)
  | 'n' :: cs => some ('\n', cs)
  | 'r' :: cs => some ('\r', cs)
  | 't' :: cs => some ('\t', cs)
  | 'u' :: cs => do
    let (high, cs) ← unit? cs
    if high < 0xD800 ∨ 0xDFFF < high then return (Char.ofNat high, cs)
    match (lowUnit? cs).filter fun _ => high < 0xDC00 with
    | some (low, cs) =>
      return (Char.ofNat (0x10000 + (high - 0xD800) * 0x400 + (low - 0xDC00)), cs)
    | none => return (none, cs)
  | _ => none

def string? : Nat → List Char → Option (Option (List Char) × List Char)
  | 0, _ => none
  | _, [] => none
  | _ + 1, '\"' :: cs => some (some [], cs)
  | fuel + 1, '\\' :: cs => do
    let (c?, cs) ← escaped? cs
    let (s?, rest) ← string? fuel cs
    return (c?.bind fun c => s?.map (c :: ·), rest)
  | fuel + 1, c :: cs =>
    if c.toNat < 32 then none
    else do
      let (s?, rest) ← string? fuel cs
      return (s?.map (c :: ·), rest)

def isWholePart (ds : List Char) : Bool := ds == ['0'] || (!ds.isEmpty && ds.head? != some '0')

def fraction? : List Char → Option (List Char × List Char)
  | '.' :: cs =>
    let ds := cs.takeWhile Char.isDigit
    if ds.isEmpty then none else some (ds, cs.dropWhile Char.isDigit)
  | cs => some ([], cs)

def power? : List Char → Option (Option Int × List Char)
  | c :: cs =>
    if c == 'e' || c == 'E' then
      let (sign, cs) : Int × List Char := match cs with
        | '-' :: cs => (-1, cs)
        | '+' :: cs => (1, cs)
        | cs => (1, cs)
      let ds := cs.takeWhile Char.isDigit
      if ds.isEmpty then none
      else some (some (sign * Text.ofDigits ds), cs.dropWhile Char.isDigit)
    else some (none, c :: cs)
  | [] => some (none, [])

/-- A number without fraction and power is an integer while 64 bits hold it; minus zero is a
real number. -/
def number? (negative : Bool) (cs : List Char) : Option (Document × List Char) := do
  let whole := cs.takeWhile Char.isDigit
  if !isWholePart whole then none
  let (places, cs) ← fraction? (cs.dropWhile Char.isDigit)
  let (power, cs) ← power? cs
  let n := Text.ofDigits whole
  if places.isEmpty && power.isNone &&
      (if negative then 0 < n && n ≤ 0x8000000000000000 else n ≤ 0xffffffffffffffff) then
    return (.int (if negative then -n else n), cs)
  let magnitude :=
    Binary.double.nearestDecimal (Text.ofDigits (whole ++ places)) (power.getD 0 - places.length)
  if magnitude < Binary.double.infinity then
    return (.real (.ofMagnitude negative magnitude), cs)
  else return (.unreadable, cs)

mutual

def value? : Nat → List Char → Option (Document × List Char)
  | 0, _ => none
  | fuel + 1, cs =>
    match skip cs with
    | 'n' :: 'u' :: 'l' :: 'l' :: rest => some (.null, rest)
    | 't' :: 'r' :: 'u' :: 'e' :: rest => some (.bool true, rest)
    | 'f' :: 'a' :: 'l' :: 's' :: 'e' :: rest => some (.bool false, rest)
    | '\"' :: rest => do
      let (s?, rest) ← string? (rest.length + 1) rest
      return ((s?.map fun s => Document.text (String.ofList s)).getD .unreadable, rest)
    | '-' :: rest => number? true rest
    | '[' :: rest =>
      match skip rest with
      | ']' :: rest => some (.list [], rest)
      | rest => do
        let (items, rest) ← items? fuel rest
        return (.list items, rest)
    | '\x7b' :: rest =>
      match skip rest with
      | '\x7d' :: rest => some (.map [], rest)
      | rest => do
        let (entries, rest) ← entries? fuel rest
        return (.map entries, rest)
    | cs => number? false cs

def items? : Nat → List Char → Option (List Document × List Char)
  | 0, _ => none
  | fuel + 1, cs => do
    let (d, rest) ← value? fuel cs
    match skip rest with
    | ',' :: rest => do
      let (items, rest) ← items? fuel rest
      return (d :: items, rest)
    | ']' :: rest => return ([d], rest)
    | _ => none

def entries? : Nat → List Char → Option (List (String × Document) × List Char)
  | 0, _ => none
  | fuel + 1, cs =>
    match skip cs with
    | '\"' :: rest => do
      let (key?, rest) ← string? (rest.length + 1) rest
      let key ← key?
      match skip rest with
      | ':' :: rest => do
        let (d, rest) ← value? fuel rest
        match skip rest with
        | ',' :: rest => do
          let (entries, rest) ← entries? fuel rest
          return ((String.ofList key, d) :: entries, rest)
        | '\x7d' :: rest => return ([(String.ofList key, d)], rest)
        | _ => none
      | _ => none
    | _ => none

end

def ofText? (s : String) : Option Document :=
  let cs := s.toList
  match value? (cs.length + 1) cs with
  | some (d, rest) => if (skip rest).isEmpty then some (d.cut 127) else none
  | none => none

end TableTransfer.Json
