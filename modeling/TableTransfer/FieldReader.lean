import TableTransfer.Dialect.Basic

namespace TableTransfer

def Shape.family? : Shape → Option Family
  | .boolean => some .boolean
  | .int | .long => some .integer
  | .float => some .real
  | .double => some .double
  | .bytes => some .binary
  | .string => some .text
  | .date => some .date
  | .timeMillis | .timeMicros => some .time
  | .timestampMillis | .timestampMicros => some .timestamp
  | .decimal .. => some .numeric
  | .null | .array _ | .record _ => none

def Decimal.atScale (field : String) (scale : Nat) (d : Decimal) : Except Error Value :=
  match d.rescaleExact? scale with
  | some r => .ok (.decimal r)
  | none => .error (.conversion field (.losesDigits d scale))

namespace Family

/-- Reads a column as its family says, in the width and unit of the declared shape. -/
def read (f : Family) (cur : Cursor) (field : Field) (index : Nat) : Except Error Value :=
  let s := field.type.shape
  match f with
  | boolean => Value.ofRead .boolean (cur.bool index)
  | tinyInt | smallInt | integer =>
    if s.physical = .long then Value.ofRead .long (cur.int64 index)
    else Value.ofRead .int (cur.int32 index)
  | bigInt => Value.ofRead .long (cur.int64 index)
  | real | float =>
    if s.physical = .double then Value.ofRead .double (cur.binary64 index)
    else Value.ofRead .float (cur.binary32 index)
  | double => Value.ofRead .double (cur.binary64 index)
  | text => Value.ofRead .string (cur.string index)
  | binary => Value.ofRead .bytes (cur.bytes index)
  | date => Value.ofRead Value.ofDate (cur.date index)
  | time => Value.ofRead (Value.ofTime s.timeUnit) (cur.time index)
  | timestamp => cur.timestampAs s index
  | zonedTimestamp =>
    Value.ofRead (fun t => Value.ofTimestamp s.timeUnit t.utc) (cur.zonedTimestamp index)
  | numeric => do
    match ← cur.decimal index, s.decimalScale? with
    | none, _ => return .null
    | some d, none => return .decimal d
    | some d, some scale => d.atScale field.name scale

end Family

namespace Field

/-- The general rule: by the family of the column, else by that of the declared shape. -/
def readGeneric (f : Field) (cur : Cursor) (c : ColumnType) : Except Error Value :=
  match c.code.family?.or f.type.shape.family? with
  | some family => family.read cur f c.ordinal
  | none =>
    match f.type.shape with
    | .null => .ok .null
    | s => .error (.conversion f.name (.noReader c.typeName c.name s.displayName))

/-- A missing value is for fields that allow it, and for those that are always missing. -/
def requireValue (f : Field) (c : ColumnType) (v : Value) : Except Error Value :=
  if v.isNull && !f.type.nullable && f.type.shape.physical != .null then
    .error (.conversion f.name (.nullInColumn c.name))
  else .ok v

def read (vendor : Vendor) (f : Field) (cur : Cursor) (c : ColumnType) : Except Error Value :=
  ((vendor.read? cur f.type.shape c).getD (f.readGeneric cur c)).bind (f.requireValue c)

end Field

end TableTransfer
