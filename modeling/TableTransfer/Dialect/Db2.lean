import TableTransfer.Dialect.Values

namespace TableTransfer.Db2

def isDecFloat (typeName : String) : Bool := Text.sameLetters typeName "DECFLOAT"

def isXml (code : TypeCode) (typeName : String) : Bool :=
  code.is .sqlXml || Text.sameLetters typeName "XML"

def isGraphic (typeName : String) : Bool :=
  Text.isOneOf ["GRAPHIC", "VARGRAPHIC", "LONG VARGRAPHIC", "DBCLOB"] typeName

def type? (c : Column) : Option Shape :=
  if isDecFloat c.typeName then some .double
  else if isXml c.code c.typeName || isGraphic c.typeName then some .string
  else none

def accepts? (t : UniversalType) (c : Column) : Option Bool :=
  match t.shape with
  | .double => if isDecFloat c.typeName then some true else none
  | .string => if isXml c.code c.typeName || isGraphic c.typeName then some true else none
  | _ => none

def read? (cur : Cursor) (s : Shape) (c : ColumnType) : Option (Except Error Value) :=
  match s with
  | .double =>
    if isDecFloat c.typeName then some (Value.ofRead .double (cur.binary64 c.ordinal)) else none
  | .string =>
    if isXml c.code c.typeName then some (Value.ofRead .string (cur.string c.ordinal)) else none
  | _ => none

def write? {σ : Type} [ParamTarget σ] (c : ColumnType) (v : Value) : Option (ParamM σ Unit) :=
  match v with
  | .double x => if isDecFloat c.typeName then some (c.bind (.f64 x)) else none
  | .string text => if isXml c.code c.typeName then some (c.bindObject text) else none
  | _ => none

end TableTransfer.Db2
