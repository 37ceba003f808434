import TableTransfer.Error
import TableTransfer.Schema.Column
import TableTransfer.Value.Coercion

namespace TableTransfer

abbrev Row := List SqlValue

structure Cursor where
  columns : List Column
  rows : List Row
  position : Option Nat := none

namespace Cursor

def single (columns : List Column) (row : Row) : Cursor := ⟨columns, [row], some 0⟩

def current? (c : Cursor) : Option Row := c.position.bind fun p => c.rows[p]?

/-- Moves on by one row, past the last one at most once, and tells whether there is a row. -/
def next (c : Cursor) : Bool × Cursor :=
  let p := match c.position with
    | none => 0
    | some p => p + 1
  (p < c.rows.length, { c with position := some (min p c.rows.length) })

def onRows (c : Cursor) : List Cursor :=
  (List.range c.rows.length).map fun i => { c with position := some i }

def cell? (row : Row) (index : Nat) : Option SqlValue :=
  match index with
  | 0 => none
  | i + 1 => row[i]?

def value (c : Cursor) (index : Nat) : Except Error SqlValue :=
  match c.current? with
  | none => .error (.resource .noRow)
  | some row =>
    match cell? row index with
    | some v => .ok v
    | none => .error (.resource (.noColumn index row.length))

def columnName (c : Cursor) (index : Nat) : String :=
  let named := match index with
    | 0 => none
    | i + 1 => c.columns[i]?
  match named with
  | some column => column.name
  | none => "#" ++ Text.intText index

def read {α : Type} (c : Cursor) (index : Nat) (wanted : String) (convert : SqlValue → Option α) :
    Except Error (Option α) := do
  let v ← c.value index
  if v.isNull then return none
  match convert v with
  | some a => return some a
  | none => throw (.conversion (c.columnName index) (.unreadable v.kind wanted))

def bool (c : Cursor) (index : Nat) : Except Error (Option Bool) :=
  c.read index "bool" SqlValue.asBool?

def int32 (c : Cursor) (index : Nat) : Except Error (Option Int32) :=
  c.read index "i32" SqlValue.asInt32?

def int64 (c : Cursor) (index : Nat) : Except Error (Option Int64) :=
  c.read index "i64" SqlValue.asInt64?

def binary32 (c : Cursor) (index : Nat) : Except Error (Option Binary32) :=
  c.read index "f32" SqlValue.asBinary32?

def binary64 (c : Cursor) (index : Nat) : Except Error (Option Binary64) :=
  c.read index "f64" SqlValue.asBinary64?

def string (c : Cursor) (index : Nat) : Except Error (Option String) :=
  c.read index "string" SqlValue.asString?

def bytes (c : Cursor) (index : Nat) : Except Error (Option (List UInt8)) :=
  c.read index "bytes" SqlValue.asBytes?

def decimal (c : Cursor) (index : Nat) : Except Error (Option Decimal) :=
  c.read index "decimal" SqlValue.asDecimal?

def date (c : Cursor) (index : Nat) : Except Error (Option Date) :=
  c.read index "date" SqlValue.asDate?

def time (c : Cursor) (index : Nat) : Except Error (Option Time) :=
  c.read index "time" SqlValue.asTime?

def timestamp (c : Cursor) (index : Nat) : Except Error (Option Timestamp) :=
  c.read index "timestamp" SqlValue.asTimestamp?

def zonedTimestamp (c : Cursor) (index : Nat) : Except Error (Option OffsetTimestamp) :=
  c.read index "timestamp with time zone" SqlValue.asZonedTimestamp?

end Cursor

end TableTransfer
