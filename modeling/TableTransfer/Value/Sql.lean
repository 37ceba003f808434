import TableTransfer.Binary.Basic
import TableTransfer.Calendar.Basic
import TableTransfer.Decimal.Basic
import TableTransfer.Schema.TypeCode
import TableTransfer.Text.Number

namespace TableTransfer

inductive NullHint where
  | bool | i16 | i32 | i64 | f32 | f64 | string | bytes | uuid | decimal
  | timestamp | zonedTimestamp | date | time | other
deriving DecidableEq

namespace NullHint

def all : List NullHint :=
  [bool, i16, i32, i64, f32, f64, string, bytes, uuid, decimal, timestamp, zonedTimestamp, date,
    time, other]

def name : NullHint → String
  | bool => "Bool" | i16 => "I16" | i32 => "I32" | i64 => "I64" | f32 => "F32" | f64 => "F64"
  | string => "String" | bytes => "Bytes" | uuid => "Uuid" | decimal => "Decimal"
  | timestamp => "DateTime" | zonedTimestamp => "DateTimeOffset" | date => "Date"
  | time => "Time" | other => "Other"

def ofName? (s : String) : Option NullHint := all.find? fun h => h.name == s

def ofFamily : Family → NullHint
  | .boolean => bool
  | .tinyInt | .smallInt => i16
  | .integer => i32
  | .bigInt => i64
  | .real => f32
  | .float | .double => f64
  | .numeric => decimal
  | .text => string
  | .binary => bytes
  | .date => date
  | .time => time
  | .timestamp => timestamp
  | .zonedTimestamp => zonedTimestamp

def ofCode (c : TypeCode) : NullHint :=
  match c.family? with
  | some f => ofFamily f
  | none => if c.is .timeWithTimeZone then time else other

end NullHint

structure Uuid where
  bytes : List UInt8
deriving DecidableEq

namespace Uuid

def text (u : Uuid) : String :=
  let group (from_ count : Nat) := Text.hex ((u.bytes.drop from_).take count)
  "-".intercalate [group 0 4, group 4 2, group 6 2, group 8 2, group 10 6]

def ofText? (s : String) : Option Uuid := do
  let bytes ← Text.unhex? (s.toList.filter (· != '-'))
  if bytes.length = 16 then some ⟨bytes⟩ else none

end Uuid

/-- A value in the terms of a driver. An `object` has a vendor's type and is carried as text. -/
inductive SqlValue where
  | null (hint : NullHint)
  | bool (b : Bool)
  | i16 (n : Int16)
  | i32 (n : Int32)
  | i64 (n : Int64)
  | f32 (x : Binary32)
  | f64 (x : Binary64)
  | text (s : String)
  | bytes (b : List UInt8)
  | uuid (u : Uuid)
  | decimal (d : Decimal)
  | timestamp (t : Timestamp)
  | zonedTimestamp (t : OffsetTimestamp)
  | date (d : Date)
  | time (t : Time)
  | object (typeName text : String)
deriving DecidableEq

namespace SqlValue

def isNull : SqlValue → Bool
  | null _ => true
  | _ => false

def kind : SqlValue → String
  | null _ => "null" | bool _ => "bool" | i16 _ => "i16" | i32 _ => "i32" | i64 _ => "i64"
  | f32 _ => "f32" | f64 _ => "f64" | text _ => "text" | bytes _ => "bytes" | uuid _ => "uuid"
  | decimal _ => "decimal" | timestamp _ => "timestamp" | zonedTimestamp _ => "timestamptz"
  | date _ => "date" | time _ => "time" | object .. => "object"

end SqlValue

end TableTransfer
