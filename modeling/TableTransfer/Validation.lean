import TableTransfer.Inference

namespace TableTransfer

inductive Role where
  | source
  | sink
deriving DecidableEq

namespace Role

def cause : Role → FailureCause
  | source => .outputSchema
  | sink => .inputSchema

def location : Role → String
  | source => "the query result"
  | sink => "the destination table"

end Role

def Shape.fits (s : Shape) (c : Column) : Bool :=
  match s with
  | .null => true
  | .boolean => c.code.family? == some .boolean
  | .int =>
    match c.code.family? with
    | some .tinyInt | some .smallInt => true
    | some .integer => c.signed
    | _ => false
  | .long =>
    match c.code.family? with
    | some .bigInt => true
    | some .integer => !c.signed
    | _ => false
  | .float =>
    match c.code.family? with
    | some .real | some .float => true
    | _ => false
  | .double => c.code.family? == some .double
  | .bytes => c.code.isBinary
  | .string => c.code.isText
  | .date => c.code.family? == some .date
  | .timeMillis | .timeMicros => c.code.family? == some .time
  | .timestampMillis | .timestampMicros =>
    match c.code.family? with
    | some .timestamp | some .zonedTimestamp => true
    | _ => false
  | .decimal .. => c.code.family? == some .numeric
  | .array _ => c.code.is .array
  | .record _ => c.code.is .struct

/-- What a dialect answers when it is asked whether a column holds a type, if it answers at all. -/
abbrev CompatibilityRule := UniversalType → Column → Option Bool

/-- The column holds the type, missing values aside: by the rule, else by the families. -/
def UniversalType.isCompatibleBy (rule : CompatibilityRule) (t : UniversalType) (c : Column) :
    Bool :=
  (rule (t.withNullable false) c).getD (t.shape.fits c)

def UniversalType.isCompatible (v : Vendor) (t : UniversalType) (c : Column) : Bool :=
  t.isCompatibleBy v.accepts? c

namespace Column

def described (c : Column) : String :=
  match c.code.standard? with
  | some t =>
    if c.typeNameIs t.name then c.typeName else c.typeName ++ " (" ++ t.name ++ ")"
  | none => c.typeName ++ " (type code " ++ Text.intText c.code.value ++ ")"

def last? (name : String) (cs : List Column) : Option Column :=
  cs.reverse.find? fun c => c.name == name

end Column

namespace Failure

def absent (role : Role) (f : Field) : Failure :=
  { kind := .missingField
    message := "Field '" ++ f.name ++ "' is not present in " ++ role.location
    field := f.name
    cause := role.cause
    action := some ("Remove field '" ++ f.name ++ "' from the schema or add the column") }

def mismatch (role : Role) (f : Field) (c : Column) : Failure :=
  { kind := .typeMismatch
    message := "Field '" ++ f.name ++ "' is declared as '" ++ f.type.displayName ++
      "' but the column type is '" ++ c.described ++ "'"
    field := f.name
    cause := role.cause
    expected := some f.type.displayName
    actual := some c.described }

def nullRead (f : Field) (c : Column) : Failure :=
  { kind := .nullabilityMismatch
    message := "Field '" ++ f.name ++ "' is non-nullable but column '" ++ c.name ++
      "' allows NULL"
    field := f.name
    cause := Role.source.cause
    action := some "Declare the field as nullable" }

def nullWritten (f : Field) (c : Column) : Failure :=
  { kind := .nullabilityMismatch
    message := "Field '" ++ f.name ++ "' is nullable but column '" ++ c.name ++ "' is NOT NULL"
    field := f.name
    cause := Role.sink.cause
    action := some "Declare the field as non-nullable" }

def uncovered (c : Column) : Failure :=
  { kind := .missingField
    message := "Column '" ++ c.name ++ "' is NOT NULL but the schema has no field for it"
    field := c.name
    cause := Role.sink.cause
    action := some ("Add field '" ++ c.name ++ "' to the schema") }

end Failure

namespace Schema

def fieldFailureBy? (rule : CompatibilityRule) (role : Role) (cs : List Column) (f : Field) :
    Option Failure :=
  match Column.last? f.name cs with
  | none => some (.absent role f)
  | some c =>
    if !f.type.isCompatibleBy rule c then some (.mismatch role f c)
    else
      match role with
      | .source => if !f.type.nullable && c.nullable then some (.nullRead f c) else none
      | .sink => if f.type.nullable && !c.nullable then some (.nullWritten f c) else none

def fieldFailure? (v : Vendor) (role : Role) (cs : List Column) (f : Field) : Option Failure :=
  fieldFailureBy? v.accepts? role cs f

def uncovered (fields : List Field) (cs : List Column) : List Column :=
  cs.filter fun c => !c.nullable && !fields.any fun f => f.name == c.name

/-- All problems: those of the fields in order, then the columns without a field. -/
def validateBy (rule : CompatibilityRule) (role : Role) (fields : List Field) (cs : List Column) :
    List Failure :=
  fields.filterMap (fieldFailureBy? rule role cs) ++
    match role with
    | .source => []
    | .sink => (uncovered fields cs).map Failure.uncovered

def validate (v : Vendor) (role : Role) (fields : List Field) (cs : List Column) :
    List Failure :=
  validateBy v.accepts? role fields cs

def check (v : Vendor) (role : Role) (fields : List Field) (cs : List Column) :
    Except Error Unit :=
  match validate v role fields cs with
  | [] => .ok ()
  | failures => .error (.validation failures)

end Schema

end TableTransfer
