import TableTransfer.Calendar.Basic
import TableTransfer.Value.Basic
import TableTransfer.Value.Narrow

namespace TableTransfer

inductive TimeUnit where
  | millis
  | micros
deriving DecidableEq

namespace TimeUnit

def perSecond : TimeUnit → Nat
  | millis => 1000
  | micros => 1000000

def nanos : TimeUnit → Nat
  | millis => 1000000
  | micros => 1000

end TimeUnit

def Time.nanos (t : Time) : Nat := t.second * 1000000000 + min t.nano 999999999

def Timestamp.count (t : Timestamp) (u : TimeUnit) : Int :=
  t.epochSecond * u.perSecond + (t.time.nano / u.nanos : Nat)

def Timestamp.ofCount? (u : TimeUnit) (n : Int) : Option Timestamp :=
  Timestamp.ofEpoch? (n / u.perSecond) ((n % u.perSecond).toNat * u.nanos)

namespace Value

def ofDate (d : Date) : Value := .int (Int32.ofInt d.day)

def ofTime (u : TimeUnit) (t : Time) : Value :=
  match u with
  | .millis => .int (Int32.ofInt (t.nanos / 1000000 : Nat))
  | .micros => .long (Int64.ofInt (t.nanos / 1000 : Nat))

def ofTimestamp (u : TimeUnit) (t : Timestamp) : Value := .long (Int64.ofInt (t.count u))

def asDate? : Value → Option Date
  | .int days => Date.ofDay? days.toInt
  | _ => none

/-- The seconds are taken as a word of 32 bits. -/
def timeOfMicros? (micros : Int) : Option Time :=
  if micros < 0 then none
  else Time.ofSecond? (micros / 1000000 % 0x100000000).toNat ((micros % 1000000).toNat * 1000)

/-- An `int` counts milliseconds, a `long` microseconds. -/
def asTime? : Value → Option Time
  | .int millis => timeOfMicros? (millis.toInt * 1000)
  | .long micros => timeOfMicros? micros.toInt
  | _ => none

def asTimestamp? (u : TimeUnit) : Value → Option Timestamp
  | .long n => Timestamp.ofCount? u n.toInt
  | _ => none

end Value

end TableTransfer
