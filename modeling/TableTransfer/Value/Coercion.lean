import TableTransfer.Binary.Reader
import TableTransfer.Binary.Shortest
import TableTransfer.Calendar.Internet
import TableTransfer.Calendar.Printer
import TableTransfer.Calendar.Reader
import TableTransfer.Decimal.Binary
import TableTransfer.Text.Basic
import TableTransfer.Text.Unicode
import TableTransfer.Value.Narrow
import TableTransfer.Value.Sql

namespace TableTransfer.SqlValue

def asInt64? : SqlValue → Option Int64
  | bool b => some (if b then 1 else 0)
  | i16 n => int64? n.toInt
  | i32 n => int64? n.toInt
  | i64 n => some n
  | decimal d => if d.isWhole then int64? d.whole else none
  | text s => (Text.int? (Text.trim s.toList)).bind int64?
  | _ => none

def asInt32? (v : SqlValue) : Option Int32 := v.asInt64?.bind fun n => int32? n.toInt

def asBool? : SqlValue → Option Bool
  | bool b => some b
  | text s =>
    match Text.lower (Text.trimmed s) with
    | "true" | "t" | "1" => some true
    | "false" | "f" | "0" => some false
    | _ => none
  | v => v.asInt64?.map fun n => n.toInt ≠ 0

def asBinary32? : SqlValue → Option Binary32
  | f32 x => some x
  | f64 x => some x.narrow
  | decimal d => some d.toBinary32
  | v => v.asInt64?.map fun n => .ofInt n.toInt

def asBinary64? : SqlValue → Option Binary64
  | f64 x => some x
  | f32 x => some x.widen
  | decimal d => some d.toBinary64
  | text s => Binary64.ofText? (Text.trim s.toList)
  | v => v.asInt64?.map fun n => .ofInt n.toInt

def asString? : SqlValue → Option String
  | text s => some s
  | object _ s => some s
  | uuid u => some u.text
  | decimal d => some d.text
  | i16 n => some (Text.intText n.toInt)
  | i32 n => some (Text.intText n.toInt)
  | i64 n => some (Text.intText n.toInt)
  | f64 x => some x.text
  | date d => some d.text
  | time t => some t.text
  | timestamp t => some t.text
  | zonedTimestamp t => some t.internetText
  | null _ | bool _ | f32 _ | bytes _ => none

def asBytes? : SqlValue → Option (List UInt8)
  | bytes b => some b
  | uuid u => some u.bytes
  | text s => some s.toUTF8.toList
  | _ => none

def asDecimal? : SqlValue → Option Decimal
  | decimal d => some d
  | text s => Decimal.ofText? (Text.trim s.toList)
  | f64 x => Decimal.ofBinary64? x
  | v => v.asInt64?.map .ofInt64

def asDate? : SqlValue → Option Date
  | date d => some d
  | timestamp t => some t.date
  | text s => Date.ofText? (Text.trim s.toList)
  | _ => none

def asTime? : SqlValue → Option Time
  | time t => some t
  | text s => Time.ofText? (Text.trim s.toList)
  | _ => none

def asTimestamp? : SqlValue → Option Timestamp
  | timestamp t => some t
  | zonedTimestamp t => some t.utc
  | date d => some ⟨d, .midnight⟩
  | text s => Timestamp.ofText? (Text.trim s.toList)
  | _ => none

def asZonedTimestamp? : SqlValue → Option OffsetTimestamp
  | zonedTimestamp t => some t
  | timestamp t => some (.ofUtc t)
  | text s => (OffsetTimestamp.ofInternetText (Text.trimmed s)).toOption
  | _ => none

end TableTransfer.SqlValue
