import TableTransfer.Schema.Exchange

namespace TableTransfer

structure SourceSettings where
  importQuery : String
  boundingQuery : Option String := none
  splitBy : Option String := none
  splitCount : Nat := 1
  withNulls : Bool := false
  schema : Option (List Field) := none

structure SinkSettings where
  schemaName : String := ""
  table : String
  schema : Option (List Field) := none

structure ConnectionSettings where
  url : String := ""
  user : String := ""
  password : String := ""
deriving DecidableEq

structure Config where
  dialect : String := "generic"
  source : Option SourceSettings := none
  sink : Option SinkSettings := none
  connection : ConnectionSettings := {}

namespace SourceSettings

def layout : Document.Layout where
  names := ["import_query", "bounding_query", "split_by", "num_splits", "include_null_split",
    "schema"]
  required := ["import_query"]

def setMember (s : SourceSettings) (name : String) (d : Document) :
    Except DecodeFault SourceSettings :=
  match name with
  | "import_query" => do return { s with importQuery := ← d.asText }
  | "bounding_query" => do return { s with boundingQuery := ← d.asOption Document.asText }
  | "split_by" => do return { s with splitBy := ← d.asOption Document.asText }
  | "num_splits" => do return { s with splitCount := ← d.asNat64 }
  | "include_null_split" => do return { s with withNulls := ← d.asBool }
  | "schema" => do
    return { s with schema := ← d.asOption fun d => d.asList Field.ofLooseDocument }
  | _ => .ok s

def ofDocument (d : Document) : Except DecodeFault SourceSettings :=
  d.build layout { importQuery := "" } setMember

end SourceSettings

namespace SinkSettings

def layout : Document.Layout where
  names := ["schema_name", "table", "schema"]
  required := ["table"]

def setMember (s : SinkSettings) (name : String) (d : Document) : Except DecodeFault SinkSettings :=
  match name with
  | "schema_name" => do return { s with schemaName := ← d.asText }
  | "table" => do return { s with table := ← d.asText }
  | "schema" => do
    return { s with schema := ← d.asOption fun d => d.asList Field.ofLooseDocument }
  | _ => .ok s

def ofDocument (d : Document) : Except DecodeFault SinkSettings :=
  d.build layout { table := "" } setMember

end SinkSettings

namespace ConnectionSettings

def layout : Document.Layout where
  names := ["url", "user", "password"]
  required := []

def setMember (c : ConnectionSettings) (name : String) (d : Document) :
    Except DecodeFault ConnectionSettings :=
  match name with
  | "url" => do return { c with url := ← d.asText }
  | "user" => do return { c with user := ← d.asText }
  | "password" => do return { c with password := ← d.asText }
  | _ => .ok c

def ofDocument (d : Document) : Except DecodeFault ConnectionSettings :=
  d.build layout {} setMember

/-- The password is never written. -/
def toDocument (c : ConnectionSettings) : Document :=
  .map [("url", .text c.url), ("user", .text c.user)]

def described (c : ConnectionSettings) : String :=
  "ConnectionConfig \x7b url: " ++ Text.quoted c.url ++ ", user: " ++ Text.quoted c.user ++
    ", password: \"[REDACTED]\" \x7d"

end ConnectionSettings

def schemaEntry (schema : Option (List Field)) : List (String × Document) :=
  (schema.map fun fields => ("schema", Document.list (fields.map Field.toDocument))).toList

def SourceSettings.toDocument (s : SourceSettings) : Document :=
  let optional (name : String) (v : Option String) : List (String × Document) :=
    (v.map fun v => (name, Document.text v)).toList
  .map ([("import_query", .text s.importQuery)] ++ optional "bounding_query" s.boundingQuery ++
    optional "split_by" s.splitBy ++
    [("num_splits", .int s.splitCount), ("include_null_split", .bool s.withNulls)] ++
    schemaEntry s.schema)

def SinkSettings.toDocument (s : SinkSettings) : Document :=
  .map ([("schema_name", .text s.schemaName), ("table", .text s.table)] ++ schemaEntry s.schema)

namespace Config

def layout : Document.Layout where
  names := ["dialect", "source", "sink", "connection"]
  required := []

def setMember (c : Config) (name : String) (d : Document) : Except DecodeFault Config :=
  match name with
  | "dialect" => do return { c with dialect := ← d.asText }
  | "source" => do return { c with source := ← d.asOption SourceSettings.ofDocument }
  | "sink" => do return { c with sink := ← d.asOption SinkSettings.ofDocument }
  | "connection" => do return { c with connection := ← ConnectionSettings.ofDocument d }
  | _ => .ok c

def ofDocument (d : Document) : Except DecodeFault Config := d.build layout {} setMember

def toDocument (c : Config) : Document :=
  .map ([("dialect", .text c.dialect)] ++
    (c.source.map fun s => ("source", s.toDocument)).toList ++
    (c.sink.map fun s => ("sink", s.toDocument)).toList ++
    [("connection", c.connection.toDocument)])

end Config

end TableTransfer
