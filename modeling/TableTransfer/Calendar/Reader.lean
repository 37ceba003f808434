import TableTransfer.Arithmetic
import TableTransfer.Calendar.Basic
import TableTransfer.Text.Number
import TableTransfer.Text.Unicode

namespace TableTransfer.Calendar

/-- Digits, at most `width` of them, after blanks. -/
def number? (width : Nat) (cs : List Char) : Option (Nat × List Char) :=
  let cs := Text.trimStart cs
  let ds := (cs.take width).takeWhile Char.isDigit
  if ds.isEmpty then none else some (Text.ofDigits ds, cs.drop ds.length)

def year? (cs : List Char) : Option (Int × List Char) :=
  match Text.trimStart cs with
  | '-' :: cs => signed (-1) cs
  | '+' :: cs => signed 1 cs
  | cs => (number? 4 cs).map fun (n, rest) => (n, rest)
where
  signed (sign : Int) (cs : List Char) : Option (Int × List Char) :=
    let ds := cs.takeWhile Char.isDigit
    if ds.isEmpty then none else some (sign * Text.ofDigits ds, cs.drop ds.length)

def mark? (c : Char) : List Char → Option (List Char)
  | [] => none
  | d :: cs => if d = c then some cs else none

def fraction? : List Char → Option (Nat × List Char)
  | '.' :: cs =>
    let ds := (cs.takeWhile Char.isDigit).take 9
    if ds.isEmpty then none
    else some (Text.ofDigits ds * tenTo (9 - ds.length), cs.dropWhile Char.isDigit)
  | cs => some (0, cs)

/-- The sixtieth second of a minute is the leap second after the one before. -/
def timeOf? (hour minute second nano : Nat) : Option Time :=
  if second = 60 then Time.ofClock? hour minute 59 (nano + 1000000000)
  else Time.ofClock? hour minute second nano

/-- Where blanks may stand before a mark between two numbers. -/
inductive Spacing where
  | loose
  | tight

def Spacing.skip : Spacing → List Char → List Char
  | loose, cs => Text.trimStart cs
  | tight, cs => cs

def civil? (spacing : Spacing) (cs : List Char) : Option (Date × List Char) := do
  let (year, cs) ← year? cs
  let cs ← mark? '-' (spacing.skip cs)
  let (month, cs) ← number? 2 cs
  let cs ← mark? '-' (spacing.skip cs)
  let (day, cs) ← number? 2 cs
  let date ← Date.ofCivil? ⟨year, month, day⟩
  return (date, cs)

def clock? (spacing : Spacing) (cs : List Char) : Option (Time × List Char) := do
  let (hour, cs) ← number? 2 cs
  let cs ← mark? ':' (spacing.skip cs)
  let (minute, cs) ← number? 2 cs
  let cs ← mark? ':' (spacing.skip cs)
  let (second, cs) ← number? 2 cs
  let (nano, cs) ← fraction? cs
  let time ← timeOf? hour minute second nano
  return (time, cs)

def hourMinute? (cs : List Char) : Option (Time × List Char) := do
  let (hour, cs) ← number? 2 cs
  let cs ← mark? ':' (Text.trimStart cs)
  let (minute, cs) ← number? 2 cs
  let time ← Time.ofClock? hour minute 0 0
  return (time, cs)

def whole? {α : Type} : Option (α × List Char) → Option α
  | some (a, rest) => if (Text.trimStart rest).isEmpty then some a else none
  | none => none

def offset? (cs : List Char) : Option (Int × List Char) := do
  let (sign, cs) ← match Text.trimStart cs with
    | '+' :: cs => some ((1 : Int), cs)
    | '-' :: cs => some (-1, cs)
    | '\u2212' :: cs => some (-1, cs)
    | _ => none
  match cs with
  | a :: b :: cs =>
    match cs.dropWhile fun c => c == ':' || Text.isBlank c with
    | c :: d :: rest =>
      if a.isDigit && b.isDigit && c.isDigit && d.isDigit && Text.digitValue c < 6 then
        return (sign * (Text.ofDigits [a, b] * 3600 + Text.ofDigits [c, d] * 60 : Nat), rest)
      else none
    | _ => none
  | _ => none

end Calendar

open Calendar

def Date.ofText? (cs : List Char) : Option Date := whole? (civil? .loose cs)

def Time.ofText? (cs : List Char) : Option Time :=
  (whole? (clock? .loose cs)).or (whole? (hourMinute? cs))

def Timestamp.ofText? (cs : List Char) : Option Timestamp := do
  let (date, cs) ← civil? .loose cs
  let cs ← mark? 'T' (Text.trimStart cs)
  let time ← whole? (clock? .loose cs)
  return ⟨date, time⟩

def OffsetTimestamp.ofSpacedText? (cs : List Char) : Option OffsetTimestamp := do
  let (date, cs) ← civil? .tight cs
  let (time, cs) ← clock? .tight cs
  match ← offset? cs with
  | (offset, []) => OffsetTimestamp.ofLocal? ⟨date, time⟩ offset
  | _ => none

end TableTransfer
