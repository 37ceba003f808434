import TableTransfer.FieldReader
import TableTransfer.FieldWriter
import TableTransfer.Inference
import TableTransfer.Memory.Statement

namespace TableTransfer

structure Binding where
  field : Field
  column : ColumnType

structure Marshaller where
  vendor : Vendor
  bindings : List Binding

namespace Marshaller

/-- The column of the name that stands last, with its position. -/
def sourceColumn? (cs : List Column) (name : String) : Option ColumnType :=
  (Column.columnTypes cs).reverse.find? fun c => c.name == name

/-- The column of the name that stands first, at the given parameter. -/
def sinkColumn? (cs : List Column) (ordinal : Nat) (name : String) : Option ColumnType :=
  (cs.find? fun c => c.name == name).map fun c => c.columnType ordinal

def forSource (v : Vendor) (fields : List Field) (cs : List Column) :
    Except Error Marshaller := do
  let bindings ← fields.mapM fun f =>
    match sourceColumn? cs f.name with
    | some c => .ok ⟨f, c⟩
    | none => .error (.conversion f.name .noSourceColumn)
  return ⟨v, bindings⟩

def sinkBindings (cs : List Column) (ordinal : Nat) :
    List Field → Except Error (List Binding)
  | [] => .ok []
  | f :: fields =>
    match sinkColumn? cs ordinal f.name with
    | some c => do
      let rest ← sinkBindings cs (ordinal + 1) fields
      return ⟨f, c⟩ :: rest
    | none => .error (.conversion f.name .noDestinationColumn)

def forSink (v : Vendor) (fields : List Field) (cs : List Column) :
    Except Error Marshaller := do
  return ⟨v, ← sinkBindings cs 1 fields⟩

def columns (m : Marshaller) : List ColumnType := m.bindings.map Binding.column

def readFrom (v : Vendor) (cur : Cursor) (r : Record) : List Binding → Except Error Record
  | [] => .ok r
  | b :: bindings => do
    let value ← b.field.read v cur b.column
    readFrom v cur (r.set b.field.name value) bindings

def readRecord (m : Marshaller) (cur : Cursor) : Except Error Record :=
  readFrom m.vendor cur .empty m.bindings

/-- The value that a record has for a field; fields that allow it may be left out. -/
def valueFor (r : Record) (f : Field) : Except Error Value :=
  match r.get? f.name with
  | some v => .ok v
  | none => if f.type.nullable then .ok .null else .error (.conversion f.name .missingFromRecord)

section

variable {σ : Type} [ParamTarget σ]

def writeField (v : Vendor) (r : Record) (b : Binding) : ParamM σ Unit := do
  b.field.write v b.column (← valueFor r b.field)

def writeFields (v : Vendor) (r : Record) : List Binding → ParamM σ Unit
  | [] => pure ()
  | b :: bindings => do
    writeField v r b
    writeFields v r bindings

def stage (m : Marshaller) (r : Record) : Except Error (List Param) :=
  match (writeFields m.vendor r m.bindings).runOn ({} : StagedParams) with
  | (.ok _, staged) => .ok staged.params
  | (.error e, _) => .error e

def bindAll : List Param → ParamM σ Unit
  | [] => pure ()
  | p :: ps => do
    ParamTarget.bind p
    bindAll ps

/-- Binds a whole record. Nothing is bound before every field is written to the staged row. -/
def writeRecord (m : Marshaller) (r : Record) : ParamM σ Unit := do
  bindAll (← m.stage r)

end

end Marshaller

end TableTransfer
