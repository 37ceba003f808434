import TableTransfer.Arithmetic
import TableTransfer.Calendar.Basic
import TableTransfer.Text.Number

namespace TableTransfer.Calendar

inductive TimeFault where
  | outOfRange
  | invalid
  | tooShort
  | tooLong
deriving DecidableEq

def TimeFault.message : TimeFault → String
  | outOfRange => "input is out of range"
  | invalid => "input contains invalid characters"
  | tooShort => "premature end of input"
  | tooLong => "trailing input"

def places : Nat → List Char → Except TimeFault (Nat × List Char)
  | 0, cs => .ok (0, cs)
  | _ + 1, [] => .error .invalid
  | width + 1, c :: cs =>
    if c.isDigit then do
      let (n, rest) ← places width cs
      return (Text.digitValue c * tenTo width + n, rest)
    else .error .invalid

def oneOf (marks : List Char) : List Char → Except TimeFault (List Char)
  | [] => .error .invalid
  | c :: cs => if marks.contains c then .ok cs else .error .invalid

/-- Two digits. A text of a single byte, or of none, ends too early. -/
def pair : List Char → Except TimeFault (Nat × Nat × List Char)
  | [] => .error .tooShort
  | [c] => .error (if c.utf8Size = 1 then .tooShort else .invalid)
  | a :: b :: cs =>
    if a.isDigit && b.isDigit then .ok (Text.digitValue a, Text.digitValue b, cs)
    else .error .invalid

def fraction : List Char → Except TimeFault (Nat × List Char)
  | '.' :: cs =>
    let ds := (cs.takeWhile Char.isDigit).take 9
    if cs.isEmpty then .error .tooShort
    else if ds.isEmpty then .error .invalid
    else .ok (Text.ofDigits ds * tenTo (9 - ds.length), cs.dropWhile Char.isDigit)
  | cs => .ok (0, cs)

def zoneOffset (cs : List Char) : Except TimeFault (Int × List Char) :=
  match cs with
  | [] => .error .tooShort
  | c :: rest =>
    if c == 'Z' || c == 'z' then .ok (0, rest)
    else if c == '+' || c == '-' || c == '\u2212' then do
      let (h, h', cs) ← pair rest
      match cs with
      | [] => throw .tooShort
      | ':' :: cs =>
        let (m, m', cs) ← pair cs
        if m < 6 then
          let minutes := (10 * h + h') * 60 + 10 * m + m'
          return ((if c == '+' then 1 else -1) * (minutes * 60 : Nat), cs)
        else throw .outOfRange
      | _ => throw .invalid
    else .error .invalid

def orOutOfRange {α : Type} : Option α → Except TimeFault α
  | some a => .ok a
  | none => .error .outOfRange

end Calendar

open Calendar

def OffsetTimestamp.ofInternetText (s : String) : Except TimeFault OffsetTimestamp := do
  if s.utf8ByteSize < 19 then throw .tooShort
  let (year, cs) ← places 4 s.toList
  let cs ← oneOf ['-'] cs
  let (month, cs) ← places 2 cs
  let cs ← oneOf ['-'] cs
  let (day, cs) ← places 2 cs
  let date ← orOutOfRange (Date.ofCivil? ⟨year, month, day⟩)
  let cs ← oneOf ['t', 'T', ' '] cs
  let (hour, cs) ← places 2 cs
  let cs ← oneOf [':'] cs
  let (minute, cs) ← places 2 cs
  let cs ← oneOf [':'] cs
  let (second, cs) ← places 2 cs
  let (nano, cs) ← fraction cs
  let time ← orOutOfRange <|
    if second = 60 then Time.ofClock? hour minute 59 (nano + 1000000000)
    else Time.ofClock? hour minute second nano
  let (offset, cs) ← zoneOffset cs
  if !cs.isEmpty then throw .tooLong
  orOutOfRange (OffsetTimestamp.ofLocal? ⟨date, time⟩ offset)

end TableTransfer
