import TableTransfer.Schema.Type
import TableTransfer.Text.Lowercase

namespace TableTransfer

/-- One node of the exchange form; the types of its parts are already checked. -/
structure Node where
  type : String
  logicalType : Option String := none
  precision : Option Nat := none
  scale : Option Nat := none
  nullable : Bool := false
  items : Option UniversalType := none
  fields : Option (List Field) := none

inductive NodeFault where
  | arrayWithoutItems
  | recordWithoutFields
  | repeatedField (name : String)
  | unknownType (name : String)
  | decimalWithoutPrecision
  | badPrecision (precision scale : Nat)
  | unknownLogicalType (name : String)
  | cannotRefine (logical : Logical) (physical : Physical)
deriving DecidableEq

def NodeFault.message : NodeFault → String
  | arrayWithoutItems => "array type requires 'items'"
  | recordWithoutFields => "record type requires 'fields'"
  | repeatedField name => "duplicate field name '" ++ name ++ "'"
  | unknownType name => "unknown type '" ++ name ++ "'"
  | decimalWithoutPrecision => "decimal requires 'precision'"
  | badPrecision precision scale =>
    "invalid decimal precision/scale (" ++ Text.intText precision ++ "," ++
      Text.intText scale ++ ")"
  | unknownLogicalType name => "unknown logicalType '" ++ name ++ "'"
  | cannotRefine logical physical =>
    "logicalType '" ++ logical.tag ++ "' cannot refine '" ++ physical.tag ++ "'"

def Field.repeated? : List String → List Field → Option String
  | _, [] => none
  | seen, f :: fields =>
    if seen.contains f.name then some f.name else repeated? (f.name :: seen) fields

namespace Node

def storage (n : Node) : Except NodeFault Shape :=
  match Text.lowercase n.type with
  | "null" => .ok .null
  | "boolean" => .ok .boolean
  | "int" => .ok .int
  | "long" => .ok .long
  | "float" => .ok .float
  | "double" => .ok .double
  | "bytes" => .ok .bytes
  | "string" => .ok .string
  | "array" =>
    match n.items with
    | some items => .ok (.array items)
    | none => .error .arrayWithoutItems
  | "record" =>
    match n.fields with
    | some fields =>
      match Field.repeated? [] fields with
      | some name => .error (.repeatedField name)
      | none => .ok (.record fields)
    | none => .error .recordWithoutFields
  | other => .error (.unknownType other)

def meaning (n : Node) : Except NodeFault (Option Shape) :=
  match n.logicalType with
  | none => .ok none
  | some "date" => .ok (some .date)
  | some "time-millis" => .ok (some .timeMillis)
  | some "time-micros" => .ok (some .timeMicros)
  | some "timestamp-millis" => .ok (some .timestampMillis)
  | some "timestamp-micros" => .ok (some .timestampMicros)
  | some "decimal" =>
    match n.precision with
    | none => .error .decimalWithoutPrecision
    | some precision =>
      let scale := n.scale.getD 0
      if precision = 0 ∨ precision < scale then .error (.badPrecision precision scale)
      else .ok (some (.decimal precision scale))
  | some other => .error (.unknownLogicalType other)

/-- A meaning goes with one storage only. -/
def refine (storage : Shape) (meaning : Option Shape) : Except NodeFault Shape :=
  match meaning with
  | none => .ok storage
  | some shape =>
    match shape.logical? with
    | some logical =>
      if storage.physical = logical.physical then .ok shape
      else .error (.cannotRefine logical storage.physical)
    | none => .ok shape

end Node

namespace UniversalType

def ofNode (n : Node) : Except NodeFault UniversalType := do
  let storage ← n.storage
  let meaning ← n.meaning
  let shape ← Node.refine storage meaning
  return ⟨shape, n.nullable⟩

def toNode (t : UniversalType) : Node :=
  { type := t.shape.physical.tag
    logicalType := t.shape.logical?.map Logical.tag
    precision := match t.shape with
      | .decimal precision _ => some precision
      | _ => none
    scale := t.shape.decimalScale?
    nullable := t.nullable
    items := match t.shape with
      | .array items => some items
      | _ => none
    fields := t.fields? }

end UniversalType

end TableTransfer
