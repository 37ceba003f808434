import TableTransfer.Dialect.Basic

namespace TableTransfer

def Shape.timestampOf (scale : Int) : Shape :=
  if scale ≤ 3 then .timestampMillis else .timestampMicros

def Shape.timeOf (scale : Int) : Shape := if scale ≤ 3 then .timeMillis else .timeMicros

/-- A decimal with no more places than digits, if a precision is declared. -/
def Shape.decimalOf? (c : Column) : Option Shape :=
  if c.precision ≤ 0 then none
  else some (.decimal c.precision.toNat (min c.scale.toNat c.precision.toNat))

def Family.shape? (f : Family) (c : Column) : Option Shape :=
  match f with
  | .boolean => some .boolean
  | .tinyInt | .smallInt => some .int
  | .integer => some (if c.signed then .int else .long)
  | .bigInt => some .long
  | .real | .float => some .float
  | .double => some .double
  | .numeric => Shape.decimalOf? c
  | .text => some .string
  | .binary => some .bytes
  | .date => some .date
  | .time => some (Shape.timeOf c.scale)
  | .timestamp | .zonedTimestamp => some (Shape.timestampOf c.scale)

namespace Column

def genericShape? (c : Column) : Option Shape := c.code.family?.bind fun f => f.shape? c

def infer (v : Vendor) (c : Column) : Except Error UniversalType :=
  match (v.type? c).or c.genericShape? with
  | some s => .ok ⟨s, c.nullable⟩
  | none => .error (.unsupportedType c.name c.code.value c.typeName)

/-- One field for each column; names must differ. `seen` are the names before. -/
def inferFrom (v : Vendor) (seen : List String) : List Column → Except Error (List Field)
  | [] => .ok []
  | c :: cs =>
    if seen.contains c.name then .error (.config (.repeatedColumn c.name))
    else do
      let type ← c.infer v
      let fields ← inferFrom v (c.name :: seen) cs
      return ⟨c.name, type⟩ :: fields

def inferAll (v : Vendor) (cs : List Column) : Except Error (List Field) := inferFrom v [] cs

end Column

end TableTransfer
