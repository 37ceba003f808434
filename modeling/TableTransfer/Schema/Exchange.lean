import TableTransfer.Document.Members
import TableTransfer.Document.Settled
import TableTransfer.Schema.Column
import TableTransfer.Schema.Node

namespace TableTransfer

namespace Column

def layout : Document.Layout where
  names := ["name", "type_code", "type_name", "precision", "scale", "signed", "nullable"]
  required := ["name", "type_code", "type_name"]

def setMember (c : Column) (name : String) (d : Document) : Except DecodeFault Column :=
  match name with
  | "name" => do return { c with name := ← d.asText }
  | "type_code" => do return { c with code := ⟨← d.asInt32⟩ }
  | "type_name" => do return { c with typeName := ← d.asText }
  | "precision" => do return { c with precision := ← d.asInt32 }
  | "scale" => do return { c with scale := ← d.asInt32 }
  | "signed" => do return { c with signed := ← d.asBool }
  | "nullable" => do return { c with nullable := ← d.asBool }
  | _ => .ok c

def ofDocument (d : Document) : Except DecodeFault Column :=
  d.build layout { name := "", code := ⟨0⟩, typeName := "" } setMember

def toDocument (c : Column) : Document :=
  .map [("name", .text c.name), ("type_code", .int c.code.value), ("type_name", .text c.typeName),
    ("precision", .int c.precision), ("scale", .int c.scale), ("signed", .bool c.signed),
    ("nullable", .bool c.nullable)]

end Column

def ColumnType.toDocument (c : ColumnType) : Document :=
  .map [("name", .text c.name), ("type_name", .text c.typeName), ("type_code", .int c.code.value),
    ("ordinal", .int c.ordinal)]

namespace Node

def layout : Document.Layout where
  names := ["type", "logicalType", "precision", "scale", "nullable", "items", "fields"]
  required := ["type"]

def finish (n : Node) (entries : List (String × Document)) : Except DecodeFault UniversalType :=
  match Document.firstMissing? layout.required entries with
  | some name => .error (.missingKey name)
  | none => (UniversalType.ofNode n).mapError .node

def ownEntries (n : Node) : List (String × Document) :=
  ("type", .text n.type) ::
    ((n.logicalType.map fun s => ("logicalType", Document.text s)).toList ++
      (n.precision.map fun k => ("precision", Document.int k)).toList ++
      (n.scale.map fun k => ("scale", Document.int k)).toList ++
      if n.nullable then [("nullable", .bool true)] else [])

end Node

mutual

def UniversalType.ofDocument : Document → Except DecodeFault UniversalType
  | .map entries => do
    if Document.repeats Node.layout.names entries then throw .shape
    (← Node.ofEntries { type := "" } entries).finish entries
  | .list items => do
    if items.isEmpty then throw .shape
    let n ← Node.ofItems { type := "" } Node.layout.names items
    (UniversalType.ofNode n).mapError .node
  | _ => .error .shape

def Node.ofEntries (n : Node) : List (String × Document) → Except DecodeFault Node
  | [] => .ok n
  | (name, d) :: entries => do Node.ofEntries (← Node.setMember n name d) entries

def Node.ofItems (n : Node) : List String → List Document → Except DecodeFault Node
  | _, [] => .ok n
  | [], _ :: _ => .error .shape
  | name :: names, d :: items => do Node.ofItems (← Node.setMember n name d) names items

def Node.setMember (n : Node) (name : String) (d : Document) : Except DecodeFault Node :=
  match name with
  | "type" => do return { n with type := ← d.asText }
  | "logicalType" => do return { n with logicalType := ← d.asOption Document.asText }
  | "precision" => do return { n with precision := ← d.asOption Document.asNat32 }
  | "scale" => do return { n with scale := ← d.asOption Document.asNat32 }
  | "nullable" => do return { n with nullable := ← d.asBool }
  | "items" =>
    match d with
    | .null => .ok n
    | d => do return { n with items := some (← UniversalType.ofDocument d) }
  | "fields" =>
    match d with
    | .null => .ok n
    | .list items => do return { n with fields := some (← Field.ofItems items) }
    | _ => .error .shape
  | _ => .ok n

def Field.ofDocument : Document → Except DecodeFault Field
  | .map entries => do
    if Document.repeats ["name"] entries then throw .shape
    let name ← match Document.valuesAt "name" entries with
      | [] => throw (.missingKey "name")
      | d :: _ => d.asText
    if Document.repeats Node.layout.names entries then throw .shape
    return ⟨name, ← (← Node.ofEntries { type := "" } entries).finish entries⟩
  | _ => .error .shape

def Field.ofItems : List Document → Except DecodeFault (List Field)
  | [] => .ok []
  | d :: items => do return (← Field.ofDocument d) :: (← Field.ofItems items)

end

def Field.ofLooseDocument (d : Document) : Except DecodeFault Field :=
  match d.bare with
  | .map entries => do
    let entries ← entries.mapM fun (name, d) => do
      return (name, ← if name == "name" then Document.text <$> d.asText else d.settled)
    Field.ofDocument (.map entries)
  | _ => .error .shape

mutual

def UniversalType.entries : UniversalType → List (String × Document)
  | ⟨.array items, nullable⟩ =>
    (UniversalType.toNode ⟨.array items, nullable⟩).ownEntries ++ [("items", .map items.entries)]
  | ⟨.record fields, nullable⟩ =>
    (UniversalType.toNode ⟨.record fields, nullable⟩).ownEntries ++
      [("fields", .list (fieldDocuments fields))]
  | t => t.toNode.ownEntries

def Field.toDocument : Field → Document
  | ⟨name, type⟩ => .map (("name", .text name) :: type.entries)

def fieldDocuments : List Field → List Document
  | [] => []
  | f :: fields => f.toDocument :: fieldDocuments fields

end

def UniversalType.toDocument (t : UniversalType) : Document := .map t.entries

namespace Failure

def toDocument (f : Failure) : Document :=
  let optional (name : String) (s : Option String) : List (String × Document) :=
    (s.map fun s => (name, Document.text s)).toList
  .map ([("kind", .text f.kind.tag), ("message", .text f.message), ("field", .text f.field),
    ("cause", .text f.cause.tag)] ++ optional "expected" f.expected ++ optional "actual" f.actual ++
    optional "corrective_action" f.action)

end Failure

end TableTransfer
