import TableTransfer.Dialect.Values

namespace TableTransfer.SqlServer

def offsetTimestamp : TypeCode := ⟨-155⟩
def variant : TypeCode := ⟨-150⟩

def isSpatial (typeName : String) : Bool := Text.isOneOf ["geometry", "geography"] typeName

def type? (c : Column) : Option Shape :=
  if c.code = offsetTimestamp || c.code = variant then some .string
  else if isSpatial c.typeName then some .bytes
  else none

def accepts? (t : UniversalType) (c : Column) : Option Bool :=
  match t.shape with
  | .string => if c.code = offsetTimestamp || c.code = variant then some true else none
  | .bytes => if isSpatial c.typeName then some true else none
  | _ => none

def read? (cur : Cursor) (s : Shape) (c : ColumnType) : Option (Except Error Value) :=
  match s with
  | .string =>
    if c.code = offsetTimestamp then
      some (Value.ofRead (fun t => .string t.spacedText) (cur.zonedTimestamp c.ordinal))
    else if c.code = variant then some (Value.ofRead .string (cur.string c.ordinal))
    else none
  | _ => none

def offsetTimestampOf (field text : String) : Except Error SqlValue :=
  let text := Text.trimmed text
  match OffsetTimestamp.ofSpacedText? text.toList with
  | some t => .ok (.zonedTimestamp t)
  | none =>
    match OffsetTimestamp.ofInternetText text with
    | .ok t => .ok (.zonedTimestamp t)
    | .error fault => .error (.conversion field (.notOffsetTimestamp text fault))

def write? {σ : Type} [ParamTarget σ] (field : String) (c : ColumnType) (v : Value) :
    Option (ParamM σ Unit) :=
  match v with
  | .string text =>
    if c.code = offsetTimestamp then some do c.bind (← offsetTimestampOf field text)
    else if c.code = variant then some (c.bindObject text)
    else none
  | .int n =>
    if c.code.is .tinyInt then
      if 0 ≤ n.toInt ∧ n.toInt ≤ 255 then some (c.bind (.i16 (Int16.ofInt n.toInt)))
      else some (throw (.conversion field (.beyondTinyInt n.toInt)))
    else none
  | _ => none

end TableTransfer.SqlServer
