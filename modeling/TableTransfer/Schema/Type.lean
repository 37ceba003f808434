import TableTransfer.Text.Number

namespace TableTransfer

mutual

inductive Shape where
  | null | boolean | int | long | float | double | bytes | string
  | date | timeMillis | timeMicros | timestampMillis | timestampMicros
  | decimal (precision scale : Nat)
  | array (items : UniversalType)
  | record (fields : List Field)

structure UniversalType where
  shape : Shape
  nullable : Bool

structure Field where
  name : String
  type : UniversalType

end

inductive Physical where
  | null | boolean | int | long | float | double | bytes | string | array | record
deriving DecidableEq

inductive Logical where
  | date | timeMillis | timeMicros | timestampMillis | timestampMicros | decimal
deriving DecidableEq

def Physical.tag : Physical → String
  | null => "null" | boolean => "boolean" | int => "int" | long => "long" | float => "float"
  | double => "double" | bytes => "bytes" | string => "string" | array => "array"
  | record => "record"

def Logical.tag : Logical → String
  | date => "date" | timeMillis => "time-millis" | timeMicros => "time-micros"
  | timestampMillis => "timestamp-millis" | timestampMicros => "timestamp-micros"
  | decimal => "decimal"

def Logical.physical : Logical → Physical
  | date | timeMillis => .int
  | timeMicros | timestampMillis | timestampMicros => .long
  | decimal => .bytes

namespace Shape

def logical? : Shape → Option Logical
  | date => some .date
  | timeMillis => some .timeMillis
  | timeMicros => some .timeMicros
  | timestampMillis => some .timestampMillis
  | timestampMicros => some .timestampMicros
  | decimal .. => some .decimal
  | _ => none

def physical : Shape → Physical
  | null => .null
  | boolean => .boolean
  | int | date | timeMillis => .int
  | long | timeMicros | timestampMillis | timestampMicros => .long
  | float => .float
  | double => .double
  | bytes | decimal .. => .bytes
  | string => .string
  | array _ => .array
  | record _ => .record

def decimalScale? : Shape → Option Nat
  | decimal _ scale => some scale
  | _ => none

def countsMicros : Shape → Bool
  | timeMicros | timestampMicros => true
  | _ => false

end Shape

mutual

def Shape.displayName : Shape → String
  | .decimal precision scale =>
    "decimal(" ++ Text.intText precision ++ "," ++ Text.intText scale ++ ")"
  | .array items => "array<" ++ items.displayName ++ ">"
  | .null => "null" | .boolean => "boolean" | .int => "int" | .long => "long"
  | .float => "float" | .double => "double" | .bytes => "bytes" | .string => "string"
  | .record _ => "record"
  | .date => "int (date)" | .timeMillis => "int (time-millis)"
  | .timeMicros => "long (time-micros)" | .timestampMillis => "long (timestamp-millis)"
  | .timestampMicros => "long (timestamp-micros)"

def UniversalType.displayName : UniversalType → String
  | ⟨shape, _⟩ => shape.displayName

end

namespace UniversalType

def text (t : UniversalType) : String := t.displayName ++ if t.nullable then "?" else ""

def withNullable (t : UniversalType) (nullable : Bool) : UniversalType := ⟨t.shape, nullable⟩

def fields? (t : UniversalType) : Option (List Field) :=
  match t.shape with
  | .record fields => some fields
  | _ => none

end UniversalType

def Shape.required (s : Shape) : UniversalType := ⟨s, false⟩

def Field.find? (name : String) (fields : List Field) : Option Field :=
  fields.find? fun f => f.name == name

end TableTransfer
