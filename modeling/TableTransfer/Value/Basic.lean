import TableTransfer.Binary.Basic
import TableTransfer.Decimal.Text
import TableTransfer.Document.Basic
import TableTransfer.Schema.Type
import TableTransfer.Text.Number

namespace TableTransfer

mutual

inductive Value where
  | null
  | boolean (b : Bool)
  | int (n : Int32)
  | long (n : Int64)
  | float (x : Binary32)
  | double (x : Binary64)
  | bytes (b : List UInt8)
  | string (s : String)
  | decimal (d : Decimal)
  | array (items : List Value)
  | record (r : Record)

structure Record where
  entries : List (String × Value)

end

namespace Value

def isNull : Value → Bool
  | null => true
  | _ => false

theorem eq_null_of_isNull {v : Value} (h : v.isNull = true) : v = null := by
  cases v with
  | null => rfl
  | boolean _ | int _ | long _ | float _ | double _ | bytes _ | string _ | decimal _ | array _
  | record _ => cases h

def kind : Value → String
  | null => "null" | boolean _ => "boolean" | int _ => "int" | long _ => "long"
  | float _ => "float" | double _ => "double" | bytes _ => "bytes" | string _ => "string"
  | decimal _ => "decimal" | array _ => "array" | record _ => "record"

def physical? : Value → Option Physical
  | null => some .null
  | boolean _ => some .boolean
  | int _ => some .int
  | long _ => some .long
  | float _ => some .float
  | double _ => some .double
  | bytes _ => some .bytes
  | string _ => some .string
  | decimal _ => none
  | array _ => some .array
  | record _ => some .record

/-- A decimal for a decimal shape, else a value of the shape's storage. -/
def HasShape (v : Value) (s : Shape) : Prop :=
  match s with
  | .decimal .. => ∃ d, v = decimal d
  | s => v.physical? = some s.physical

end Value

namespace Record

def empty : Record := ⟨[]⟩

def setEntries (name : String) (v : Value) : List (String × Value) → List (String × Value)
  | [] => [(name, v)]
  | e :: rest => if e.1 = name then (name, v) :: rest else e :: setEntries name v rest

def set (r : Record) (name : String) (v : Value) : Record := ⟨setEntries name v r.entries⟩

def get? (r : Record) (name : String) : Option Value :=
  (r.entries.find? fun e => e.1 == name).map Prod.snd

def contains (r : Record) (name : String) : Bool := r.entries.any fun e => e.1 == name

def size (r : Record) : Nat := r.entries.length

def names (r : Record) : List String := r.entries.map Prod.fst

def ofList (pairs : List (String × Value)) : Record :=
  pairs.foldl (fun r p => r.set p.1 p.2) empty

theorem contains_eq_isSome_get? (r : Record) (name : String) :
    r.contains name = (r.get? name).isSome := by
  rw [Bool.eq_iff_iff]
  simp [contains, get?, List.find?_isSome]

end Record

mutual

def Value.toDocument : Value → Document
  | .null => .null
  | .boolean b => .bool b
  | .int n => .int n.toInt
  | .long n => .int n.toInt
  | .float x => .real x.widen
  | .double x => .real x
  | .bytes b => .text (Text.hex b)
  | .string s => .text s
  | .decimal d => .text d.text
  | .array items => .list (itemDocuments items)
  | .record r => r.toDocument

def Record.toDocument : Record → Document
  | ⟨entries⟩ => .map (entryDocuments entries)

def itemDocuments : List Value → List Document
  | [] => []
  | v :: rest => v.toDocument :: itemDocuments rest

def entryDocuments : List (String × Value) → List (String × Document)
  | [] => []
  | (name, v) :: rest => (name, v.toDocument) :: entryDocuments rest

end

end TableTransfer
