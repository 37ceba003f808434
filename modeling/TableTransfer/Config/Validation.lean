import TableTransfer.Config.Basic
import TableTransfer.Dialect.Catalog
import TableTransfer.Document.Yaml.Reader
import TableTransfer.Text.Unicode
import TableTransfer.Transfer.Split

namespace TableTransfer

def isGiven (s : String) : Bool := !(Text.trim s.toList).isEmpty

/-- The first thing that a source lacks. A split needs a place for conditions, a column and
the query for its bounds. -/
def SourceSettings.fault? (s : SourceSettings) : Option ConfigFault :=
  if !isGiven s.importQuery then some .importQueryMissing
  else if s.splitCount = 0 then some .splitCountZero
  else if s.splitCount ≤ 1 && !s.withNulls then none
  else if !Text.holds conditionsWord s.importQuery.toList then some .splitConditionsMissing
  else if !s.splitBy.any isGiven then some .splitColumnMissing
  else if !s.boundingQuery.any isGiven then some .boundingQueryMissing
  else none

def SinkSettings.fault? (s : SinkSettings) : Option ConfigFault :=
  match Identifier.fault? s.table with
  | some fault => some (.sinkTable fault)
  | none =>
    if s.schemaName = "" then none
    else (Identifier.fault? s.schemaName).map .sinkSchema

namespace Config

def fault? (c : Config) (catalog : Catalog) : Option ConfigFault :=
  if !catalog.contains c.dialect then some (.dialectNotKnown c.dialect catalog.names)
  else
    match (c.source.bind SourceSettings.fault?).or (c.sink.bind SinkSettings.fault?) with
    | some fault => some fault
    | none => if c.source.isNone && c.sink.isNone then some .nothingConfigured else none

def validate (c : Config) (catalog : Catalog) : Except Error Unit :=
  match c.fault? catalog with
  | some fault => .error (.config fault)
  | none => .ok ()

def ofYaml (text : String) : Except Error Config :=
  match (Yaml.ofText? text).map ofDocument with
  | some (.ok c) => do
    c.validate .builtin
    return c
  | _ => .error .yaml

def profile (c : Config) (catalog : Catalog) : Except Error Profile := catalog.require c.dialect

end Config

end TableTransfer
