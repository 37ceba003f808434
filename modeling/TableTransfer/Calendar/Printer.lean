import TableTransfer.Calendar.Basic
import TableTransfer.Text.Number

namespace TableTransfer

def yearText (year : Int) : List Char :=
  if 0 ≤ year ∧ year ≤ 9999 then Text.padded 4 year.toNat
  else (if year < 0 then '-' else '+') :: Text.padded 4 year.natAbs

def dayText (day : Int) : List Char :=
  let c := CivilDate.ofDay day
  yearText c.year ++ '-' :: Text.padded 2 c.month ++ '-' :: Text.padded 2 c.day

/-- A fraction of a second in none, three, six or nine places. -/
def fractionText (nano : Nat) : List Char :=
  if nano = 0 then []
  else if nano % 1000000 = 0 then '.' :: Text.padded 3 (nano / 1000000)
  else if nano % 1000 = 0 then '.' :: Text.padded 6 (nano / 1000)
  else '.' :: Text.padded 9 nano

/-- A leap second shows as the second after the one that it extends. -/
def clockText (second nano : Nat) : List Char :=
  Text.padded 2 (second / 3600) ++ ':' :: Text.padded 2 (second / 60 % 60) ++
    ':' :: Text.padded 2 (second % 60 + nano / 1000000000) ++ fractionText (nano % 1000000000)

def offsetText (offset : Int) : List Char :=
  let minutes := (offset.natAbs + 30) / 60
  (if offset < 0 then '-' else '+') :: Text.padded 2 (minutes / 60) ++
    ':' :: Text.padded 2 (minutes % 60)

def Date.text (d : Date) : String := String.ofList (dayText d.day)

def Time.text (t : Time) : String := String.ofList (clockText t.second t.nano)

def Timestamp.text (t : Timestamp) : String :=
  String.ofList (dayText t.date.day ++ ' ' :: clockText t.time.second t.time.nano)

namespace OffsetTimestamp

def render (between after : List Char) (t : OffsetTimestamp) : String :=
  let second := t.localSecond
  String.ofList <|
    dayText (second / 86400) ++ between ++
      clockText (second % 86400).toNat t.utc.time.nano ++ after ++ offsetText t.offset

def internetText (t : OffsetTimestamp) : String := t.render ['T'] []

def spacedText (t : OffsetTimestamp) : String := t.render [' '] [' ']

end OffsetTimestamp

end TableTransfer
