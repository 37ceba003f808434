import TableTransfer.Dialect.Values

namespace TableTransfer.Postgres

def textTypes : List String :=
  ["interval", "json", "jsonb", "xml", "uuid", "money", "inet", "cidr", "macaddr", "macaddr8",
    "varbit", "timetz", "point", "line", "lseg", "box", "path", "polygon", "circle", "tsvector",
    "tsquery"]

/-- One bit is a boolean, more are a string of bits. -/
def isText (c : Column) : Bool :=
  Text.isOneOf textTypes c.typeName || (c.typeNameIs "bit" && c.precision != 1)

def isUnbounded (c : Column) : Bool :=
  c.code.is .numeric && (c.precision ≤ 0 || 1000 < c.precision)

def isTextName (typeName : String) : Bool :=
  Text.isOneOf textTypes typeName || Text.sameLetters typeName "bit"

def type? (c : Column) : Option Shape :=
  if isText c || isUnbounded c then some .string else none

def accepts? (t : UniversalType) (c : Column) : Option Bool :=
  match t.shape with
  | .string => if isText c || isUnbounded c then some true else none
  | .decimal .. => if isUnbounded c then some true else none
  | _ => none

def read? (cur : Cursor) (s : Shape) (c : ColumnType) : Option (Except Error Value) :=
  match s with
  | .string =>
    if isTextName c.typeName || c.code.is .numeric then
      some (Value.ofRead .string (cur.string c.ordinal))
    else none
  | .decimal _ scale =>
    if c.code.is .numeric then some (cur.roundedDecimal scale c.ordinal) else none
  | _ => none

def write? {σ : Type} [ParamTarget σ] (field : String) (c : ColumnType) (v : Value) :
    Option (ParamM σ Unit) :=
  match v with
  | .string text =>
    if isTextName c.typeName then some (c.bindObject text)
    else if c.code.is .numeric then
      match Decimal.ofText (Text.trim text.toList) with
      | .ok d => some (c.bind (.decimal d))
      | .error fault => some (throw (.conversion field (.notNumeric text fault)))
    else none
  | _ => none

end TableTransfer.Postgres
