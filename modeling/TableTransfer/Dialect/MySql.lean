import TableTransfer.Dialect.Values

namespace TableTransfer.MySql

def isYear (typeName : String) : Bool := Text.sameLetters typeName "YEAR"

def isUnsignedName (typeName : String) : Bool :=
  (Text.dropEnd? "UNSIGNED".toList (Text.upper typeName).toList).isSome

def baseName (typeName : String) : String :=
  String.ofList (Text.trim (Text.dropEndAll "UNSIGNED".toList (Text.upper typeName).toList))

def isMediumInt (typeName : String) : Bool := baseName typeName == "MEDIUMINT"

def isUnsigned (c : Column) : Bool := !c.signed || isUnsignedName c.typeName

def isUnsignedBigInt (code : TypeCode) (typeName : String) : Bool :=
  code.is .bigInt && isUnsignedName typeName

def type? (c : Column) : Option Shape :=
  if c.code.is .tinyInt && c.precision == 1 && !isUnsigned c then some .boolean
  else if c.code.is .bit then some (if 1 < c.precision then .bytes else .boolean)
  else if isYear c.typeName then some .int
  else if isUnsigned c then
    match c.code.standard? with
    | some .tinyInt | some .smallInt => some .int
    | some .integer => some (if isMediumInt c.typeName then .int else .long)
    | some .bigInt => some (.decimal 20 0)
    | _ => none
  else none

def accepts? (t : UniversalType) (c : Column) : Option Bool :=
  match t.shape.physical, c.code.standard?, t.shape.logical? with
  | .boolean, some .tinyInt, _ => some true
  | .bytes, some .bit, none => some (1 < c.precision)
  | .int, code, logical =>
    if isYear c.typeName && logical.isNone then some true
    else if code == some .integer && isUnsigned c then some (isMediumInt c.typeName)
    else none
  | .bytes, some .bigInt, _ =>
    if isUnsigned c then some (t.shape.decimalScale? == some 0) else none
  | _, _, _ => none

def read? (cur : Cursor) (s : Shape) (c : ColumnType) : Option (Except Error Value) :=
  match s with
  | .boolean =>
    if c.code.is .tinyInt then
      some (Value.ofRead (fun n : Int32 => .boolean (n.toInt ≠ 0)) (cur.int32 c.ordinal))
    else year? cur c
  | .bytes =>
    (year? cur c).or <|
      if c.code.is .bit then some (Value.ofRead .bytes (cur.bytes c.ordinal)) else none
  | .decimal .. =>
    (year? cur c).or <|
      if isUnsignedBigInt c.code c.typeName then
        some (Value.ofRead .decimal (cur.decimal c.ordinal))
      else none
  | _ => year? cur c
where
  year? (cur : Cursor) (c : ColumnType) : Option (Except Error Value) :=
    if isYear c.typeName then some (Value.ofRead .int (cur.int32 c.ordinal)) else none

def unsignedMax? (c : ColumnType) : Option Int :=
  if isUnsignedName c.typeName then
    match c.code.standard? with
    | some .tinyInt => some 255
    | some .smallInt => some 65535
    | some .integer => some (if isMediumInt c.typeName then 16777215 else 4294967295)
    | _ => none
  else none

def checkUnsigned (field : String) (c : ColumnType) (n max : Int) : Except Error Unit :=
  if 0 ≤ n ∧ n ≤ max then .ok ()
  else .error (.conversion field (.outOfRange n c.typeName c.name))

def write? {σ : Type} [ParamTarget σ] (field : String) (c : ColumnType) (v : Value) :
    Option (ParamM σ Unit) :=
  match v with
  | .boolean b => if c.code.is .tinyInt then some (c.bind (.i16 (if b then 1 else 0))) else none
  | .bytes b => if c.code.is .bit then some (c.bind (.bytes b)) else none
  | .int n =>
    if isYear c.typeName then some (c.bind (.i32 n))
    else
      (unsignedMax? c).map fun max => do
        checkUnsigned field c n.toInt max
        c.bind (.i32 n)
  | .long n =>
    (unsignedMax? c).map fun max => do
      checkUnsigned field c n.toInt max
      c.bind (.i64 n)
  | .decimal d =>
    if isUnsignedBigInt c.code c.typeName then
      if d.negative || !d.isWhole then
        some (throw (.conversion field (.notUnsignedBigInt d)))
      else some (c.bind (.decimal d))
    else none
  | _ => none

end TableTransfer.MySql
