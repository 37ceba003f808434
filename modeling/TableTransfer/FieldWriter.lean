import TableTransfer.Decimal.Unscaled
import TableTransfer.Dialect.Basic

namespace TableTransfer

/-- The family that a value is written as where neither column nor declared type has one. -/
def Value.family? : Value → Option Family
  | boolean _ => some .boolean
  | int _ | long _ => some .integer
  | float _ => some .real
  | double _ => some .double
  | bytes _ => some .binary
  | string _ => some .text
  | decimal _ => some .numeric
  | null | array _ | record _ => none

def Shape.writtenFamily? : Shape → Option Family
  | .date => some .date
  | .timeMillis | .timeMicros => some .time
  | .timestampMillis | .timestampMicros => some .timestamp
  | .decimal .. => some .numeric
  | _ => none

def Value.unwritable (v : Value) (f : Field) (c : ColumnType) : Error :=
  .conversion f.name (.unwritable v.kind c.typeName c.name)

namespace Family

def writeSmall (f : Field) (c : ColumnType) (n : Int32) (low high : Int) :
    Except Error SqlValue :=
  if low ≤ n.toInt ∧ n.toInt ≤ high then .ok (.i16 (Int16.ofInt n.toInt))
  else .error (.conversion f.name (.outOfRange n.toInt c.typeName c.name))

def writeUnscaled (f : Field) (b : List UInt8) : Except Error SqlValue :=
  match Decimal.ofUnscaledBytes? b (f.type.shape.decimalScale?.getD 0) with
  | some d => .ok (.decimal d)
  | none => .error (.conversion f.name (.notDecimalBytes b.length))

/-- Writes a value as the family says; times and moments are decoded first. -/
def write (family : Family) (f : Field) (c : ColumnType) (v : Value) : Except Error SqlValue :=
  let refuse : Except Error SqlValue := .error (v.unwritable f c)
  let decoded {α : Type} (o : Option α) (make : α → SqlValue) : Except Error SqlValue :=
    match o with
    | some a => .ok (make a)
    | none => refuse
  let s := f.type.shape
  match family, v with
  | boolean, .boolean b => .ok (.bool b)
  | tinyInt, .int n => writeSmall f c n (-128) 127
  | smallInt, .int n => writeSmall f c n (-32768) 32767
  | integer, .int n => .ok (.i32 n)
  | integer, .long n => .ok (.i64 n)
  | bigInt, .long n => .ok (.i64 n)
  | bigInt, .int n => .ok (.i64 n.toInt64)
  | real, .float x => .ok (.f32 x)
  | float, .double x | double, .double x => .ok (.f64 x)
  | float, .float x | double, .float x => .ok (.f64 x.widen)
  | text, .string t => .ok (.text t)
  | binary, .bytes b => .ok (.bytes b)
  | date, v => decoded v.asDate? .date
  | time, v => decoded v.asTime? .time
  | timestamp, v => decoded (v.asTimestamp? s.timeUnit) .timestamp
  | zonedTimestamp, v =>
    decoded (v.asTimestamp? s.timeUnit) fun t => .zonedTimestamp (.ofUtc t)
  | numeric, .decimal d => .ok (.decimal d)
  | numeric, .bytes b => writeUnscaled f b
  | _, _ => refuse

end Family

namespace Field

/-- The general rule: by the family of the column, else by the meaning of the declared shape,
else by the value. -/
def writeGeneric (f : Field) (c : ColumnType) (v : Value) : Except Error SqlValue :=
  match (c.code.family?.or f.type.shape.writtenFamily?).or v.family? with
  | some family => family.write f c v
  | none => .error (v.unwritable f c)

def plainParam (f : Field) (c : ColumnType) (v : Value) : Except Error SqlValue :=
  if v.isNull then .ok (.null (.ofCode c.code)) else f.writeGeneric c v

def write {σ : Type} [ParamTarget σ] (vendor : Vendor) (f : Field) (c : ColumnType) (v : Value) :
    ParamM σ Unit :=
  if v.isNull && !f.type.nullable then throw (.conversion f.name .nullForField)
  else
    match vendor.write? f.name c v with
    | some work => work
    | none => do c.bind (← f.plainParam c v)

end Field

end TableTransfer
