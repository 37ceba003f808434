import TableTransfer.Dialect.Values

namespace TableTransfer.Oracle

def binaryFloat : TypeCode := ⟨100⟩
def binaryDouble : TypeCode := ⟨101⟩
def zonedTimestamp : TypeCode := ⟨-101⟩
def localTimestamp : TypeCode := ⟨-102⟩
def yearMonthInterval : TypeCode := ⟨-103⟩
def daySecondInterval : TypeCode := ⟨-104⟩
def externalFile : TypeCode := ⟨-13⟩

def isTextCode (c : TypeCode) : Bool :=
  c == zonedTimestamp || c == yearMonthInterval || c == daySecondInterval || c.is .rowId

def isLong (typeName : String) : Bool := Text.sameLetters typeName "LONG"

def isFloatNumber (typeName : String) : Bool := Text.sameLetters typeName "FLOAT"

def isBareNumber (c : Column) : Bool :=
  c.code.is .numeric && c.precision ≤ 0 && !isFloatNumber c.typeName

def type? (c : Column) : Option Shape :=
  if c.code = binaryFloat then some .float
  else if c.code = binaryDouble then some .double
  else if c.code = localTimestamp then some .timestampMicros
  else if c.code = externalFile then some .bytes
  else if isTextCode c.code || isLong c.typeName then some .string
  else if isFloatNumber c.typeName || isBareNumber c then some .double
  else none

/-- A moment of local time is only what can never be missing here. -/
def isRequiredTimestamp (t : UniversalType) : Bool :=
  match t.shape with
  | .timestampMillis | .timestampMicros => !t.nullable
  | _ => false

def accepts? (t : UniversalType) (c : Column) : Option Bool :=
  if t.shape.logical?.isSome then
    if c.code = localTimestamp then some (isRequiredTimestamp t)
    else if isBareNumber c then some t.shape.decimalScale?.isSome
    else none
  else
    let fits := match t.shape with
      | .float => c.code == binaryFloat
      | .double => c.code == binaryDouble || isFloatNumber c.typeName || isBareNumber c
      | .bytes => c.code == externalFile
      | .string => isTextCode c.code || isLong c.typeName
      | _ => false
    if fits then some true else none

def read? (cur : Cursor) (s : Shape) (c : ColumnType) : Option (Except Error Value) :=
  if c.code = localTimestamp then some (cur.timestampAs s c.ordinal)
  else if c.code = externalFile then some (Value.ofRead .bytes (cur.bytes c.ordinal))
  else
    match s with
    | .string =>
      if isTextCode c.code then some (Value.ofRead .string (cur.string c.ordinal)) else none
    | .float =>
      if c.code = binaryFloat then some (Value.ofRead .float (cur.binary32 c.ordinal)) else none
    | .double =>
      if c.code = binaryDouble || c.code.is .numeric then
        some (Value.ofRead .double (cur.binary64 c.ordinal))
      else none
    | .decimal _ scale =>
      if c.code.is .numeric then some (cur.roundedDecimal scale c.ordinal) else none
    | _ => none

def write? {σ : Type} [ParamTarget σ] (field : String) (c : ColumnType) (v : Value) :
    Option (ParamM σ Unit) :=
  if v.isNull then none
  else if c.code = externalFile then some (throw (.conversion field (.externalFile c.name)))
  else
    match v with
    | .string text => if isTextCode c.code then some (c.bindObject text) else none
    | .double x => if c.code.is .numeric then some (c.bind (.f64 x)) else none
    | .float x => if c.code.is .numeric then some (c.bind (.f64 x.widen)) else none
    | _ => none

end TableTransfer.Oracle
