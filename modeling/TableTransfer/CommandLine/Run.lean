import TableTransfer.CommandLine.Request
import TableTransfer.Config.Validation
import TableTransfer.Document.Json
import TableTransfer.Document.JsonReader
import TableTransfer.Inference
import TableTransfer.Transfer.Bounds

namespace TableTransfer.CommandLine

abbrev Files := String → Except String String

structure Outcome where
  output : String := ""
  error : Option Error := none
  misused : Bool := false

namespace Outcome

def exitCode (o : Outcome) : Nat :=
  if o.misused then 2
  else
    match o.error with
    | some e => e.exitCode
    | none => 0

end Outcome

def extension? (path : String) : Option String :=
  let name := path.toList.reverse.takeWhile (· != '/')
  let ending := name.takeWhile (· != '.')
  if name.length ≤ ending.length + 1 then none else some (String.ofList ending.reverse)

def isJsonPath (path : String) : Bool :=
  match extension? path with
  | some ending => Text.sameLetters ending "json"
  | none => false

def readFile (files : Files) (path : String) : Except Error String := (files path).mapError .io

def itemsOf {α : Type} (read : Document → Except DecodeFault α) (json : Bool) (text : String) :
    Except Error (List α) :=
  if json then
    match Json.ofText? text with
    | some d => (d.asList read).mapError .json
    | none => .error (.json .shape)
  else
    match Yaml.ofText? text with
    | some d => (d.asList read).mapError fun _ => .yaml
    | none => .error .yaml

def readItems {α : Type} (files : Files) (read : Document → Except DecodeFault α) (path : String) :
    Except Error (List α) :=
  (readFile files path).bind (itemsOf read (isJsonPath path))

def jsonLines (d : Document) : String := lines [Json.pretty 0 d]

def texts (json : Bool) (ss : List String) : String :=
  if json then jsonLines (.list (ss.map .text)) else lines ss

/-- The dialect that is named in the arguments, else that of the settings, else the general
one. -/
def vendor (dialect : Option String) (config : Option Config) : Except Error Vendor := do
  let name := (dialect.or (config.map Config.dialect)).getD "generic"
  return (← Catalog.builtin.require name).vendor

def infer (files : Files) (json : Bool) (v : Vendor) (columns : String) : Except Error String := do
  let fields ← Column.inferAll v (← readItems files Column.ofDocument columns)
  if json then return jsonLines (.list (fields.map Field.toDocument))
  return texts false (fields.map fun f => f.name ++ ": " ++ f.type.text)

def validate (files : Files) (json : Bool) (v : Vendor) (role : Role) (columns schema : String) :
    Except Error Outcome := do
  let columns ← readItems files Column.ofDocument columns
  let fields ← readItems files Field.ofLooseDocument schema
  let failures := Schema.validate v role fields columns
  let output :=
    if json then jsonLines (.list (failures.map Failure.toDocument))
    else if failures.isEmpty then
      lines ["Schema is valid (" ++ Text.intText fields.length ++ " fields)"]
    else ""
  return { output, error := if failures.isEmpty then none else some (.validation failures) }

def escape (json : Bool) (v : Vendor) (schema : String) (names : List String) :
    Except Error String := do
  return texts json (← names.mapM fun name => v.qualify schema name)

def splits (json : Bool) (config : Option Config) (least greatest : Option Int64) :
    Except Error String := do
  let some config := config | throw (.config .configRequired)
  let some source := config.source | throw (.config .sourceRequired)
  let plan ← SplitPlan.make source.importQuery (source.splitBy.getD "") source.splitCount
  let plan := { plan with withNulls := source.withNulls }
  match least, greatest with
  | some low, some high => return texts json (plan.queries low high)
  | none, none => return texts json plan.queriesWithoutBounds
  | _, _ => throw (.config .boundsApart)

def loadConfig (files : Files) (path : Option String) : Except Error (Option Config) :=
  match path with
  | some path => do return some (← Config.ofYaml (← readFile files path))
  | none => .ok none

def Invocation.outcome (i : Invocation) (files : Files) : Except Error Outcome := do
  let config ← loadConfig files i.config
  match i.command with
  | .infer columns => do
    return { output := ← infer files i.json (← vendor i.dialect config) columns }
  | .validate columns schema role => do
    validate files i.json (← vendor i.dialect config) role columns schema
  | .escape schema names => do
    return { output := ← escape i.json (← vendor i.dialect config) schema names }
  | .splits least greatest => do return { output := ← splits i.json config least greatest }
  | .dialects => return { output := texts i.json Catalog.builtin.names }

def Request.outcome (r : Request) (files : Files) : Outcome :=
  match r with
  | .run i =>
    match i.outcome files with
    | .ok o => o
    | .error e => { error := some e }
  | .say text => { output := text }
  | .refuse => { misused := true }

end TableTransfer.CommandLine
