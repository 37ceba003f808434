import TableTransfer.CommandLine.Help
import TableTransfer.CommandLine.Options
import TableTransfer.Text.Number
import TableTransfer.Validation
import TableTransfer.Value.Narrow

namespace TableTransfer.CommandLine

inductive Command where
  | infer (columns : String)
  | validate (columns schema : String) (role : Role)
  | escape (schema : String) (names : List String)
  | splits (least greatest : Option Int64)
  | dialects

structure Invocation where
  config : Option String := none
  dialect : Option String := none
  json : Bool := false
  command : Command

inductive Request where
  | run (i : Invocation)
  | say (text : String)
  | refuse

def helpForm : OptionForm := { name := "help", letter := some 'h', kind := .help }

def pathForm (name : String) : OptionForm := { name, kind := .value, accepts := fun s => s != "" }

def programForms : List OptionForm :=
  [{ pathForm "config" with letter := some 'c' },
    { name := "dialect", letter := some 'd', kind := .value },
    { name := "output-json", kind := .flag }, { name := "log-format", kind := .value },
    { name := "verbosity", kind := .value }, helpForm,
    { name := "version", letter := some 'V', kind := .version }]

def role? : String → Option Role
  | "source" => some .source
  | "sink" => some .sink
  | _ => none

def bound? (s : String) : Option Int64 := (Text.int? s.toList).bind int64?

def boundForm (name : String) : OptionForm :=
  { name, kind := .value, accepts := fun s => (bound? s).isSome, signed := true }

def HelpTopic.forms : HelpTopic → List OptionForm × OperandKind
  | .program | .help => (programForms, .command)
  | .infer => ([pathForm "columns", helpForm], .none)
  | .validate =>
    ([pathForm "columns", pathForm "schema",
      { name := "role", kind := .value, accepts := fun s => (role? s).isSome }, helpForm], .none)
  | .escape => ([{ name := "schema", kind := .value }, helpForm], .any)
  | .splits => ([boundForm "min", boundForm "max", helpForm], .none)
  | .dialects => ([helpForm], .none)

def Command.ofGiven? (topic : HelpTopic) (g : Given) : Option Command :=
  match topic with
  | .infer => do return .infer (← g.value? "columns")
  | .validate => do
    return .validate (← g.value? "columns") (← g.value? "schema")
      (((g.value? "role").bind role?).getD .source)
  | .escape =>
    if g.operands.isEmpty then none
    else some (.escape ((g.value? "schema").getD "") g.operands)
  | .splits => some (.splits ((g.value? "min").bind bound?) ((g.value? "max").bind bound?))
  | .dialects => some .dialects
  | .program | .help => none

namespace Request

def ofHalt (topic : HelpTopic) : Halt → Request
  | .misused => refuse
  | .help => say topic.text
  | .version => say versionText

def ofHelp : List String → Request
  | [] => say HelpTopic.program.text
  | [name] =>
    match HelpTopic.ofName? name with
    | some topic => say topic.text
    | none => refuse
  | _ => refuse

def ofCommand (g : Given) (topic : HelpTopic) (args : List String) : Request :=
  match readArguments topic.forms.1 topic.forms.2 {} args with
  | .error halt => ofHalt topic halt
  | .ok (given, _) =>
    match Command.ofGiven? topic given with
    | some command =>
      run { config := g.value? "config", dialect := g.value? "dialect"
            json := (g.value? "output-json").isSome, command }
    | none => refuse

def ofArguments (args : List String) : Request :=
  match readArguments programForms .command {} args with
  | .error halt => ofHalt .program halt
  | .ok (_, []) => refuse
  | .ok (g, name :: rest) =>
    match HelpTopic.ofName? name with
    | some .help => ofHelp rest
    | some topic => ofCommand g topic rest
    | none => refuse

def paths : Request → List String
  | run i =>
    i.config.toList ++
      match i.command with
      | .infer columns => [columns]
      | .validate columns schema _ => [columns, schema]
      | _ => []
  | _ => []

end Request

end TableTransfer.CommandLine
