import TableTransfer.Calendar.Internet
import TableTransfer.Decimal.Text
import TableTransfer.Identifier
import TableTransfer.Schema.Node

namespace TableTransfer

inductive ConversionFault where
  | unreadable (kind wanted : String)
  | noReader (typeName column declared : String)
  | nullInColumn (column : String)
  | nullForField
  | unwritable (kind typeName column : String)
  | outOfRange (value : Int) (typeName column : String)
  | losesDigits (value : Decimal) (scale : Nat)
  | notDecimalBytes (length : Nat)
  | notNumeric (text : String) (fault : Decimal.TextFault)
  | notOffsetTimestamp (text : String) (fault : Calendar.TimeFault)
  | notUnsignedBigInt (value : Decimal)
  | beyondTinyInt (value : Int)
  | externalFile (column : String)
  | noSourceColumn
  | noDestinationColumn
  | missingFromRecord
  | other (message : String)
deriving DecidableEq

def ConversionFault.message : ConversionFault → String
  | unreadable kind wanted => "cannot read " ++ kind ++ " value as " ++ wanted
  | noReader typeName column declared =>
    "no reader for " ++ typeName ++ " column '" ++ column ++ "' as " ++ declared
  | nullInColumn column => "NULL in column '" ++ column ++ "' but the field is not nullable"
  | nullForField => "NULL value for a non-nullable field"
  | unwritable kind typeName column =>
    "cannot write " ++ kind ++ " value to " ++ typeName ++ " column '" ++ column ++ "'"
  | outOfRange value typeName column =>
    "value " ++ Text.intText value ++ " out of range for " ++ typeName ++ " column '" ++
      column ++ "'"
  | losesDigits value scale =>
    "value " ++ value.text ++ " does not fit the declared scale " ++ Text.intText scale ++
      " without losing digits"
  | notDecimalBytes length => Text.intText length ++ " bytes do not encode a decimal"
  | notNumeric text fault => "'" ++ text ++ "' is not a numeric value: " ++ fault.message
  | notOffsetTimestamp text fault =>
    "'" ++ text ++ "' is not a datetimeoffset value: " ++ fault.message
  | notUnsignedBigInt value => value.text ++ " is not a valid BIGINT UNSIGNED value"
  | beyondTinyInt value => Text.intText value ++ " is out of range for tinyint (0..=255)"
  | externalFile column => "column '" ++ column ++ "' is a BFILE and cannot be written"
  | noSourceColumn => "no column of this name in the result set"
  | noDestinationColumn => "no destination column of this name"
  | missingFromRecord => "required field is missing from the record"
  | other message => message

inductive ResourceFault where
  | noRow
  | noColumn (index count : Nat)
  | noParameter
  | connectionClosed
  | noResult (sql : String)
  | noTable (name : String)
  | registration (id scheme message : String)
  | noBounds (sql : String)
  | boundsCrossed (least greatest : Int) (sql : String)
  | oneNullBound (sql : String)
  | receiverGone
  | other (message context : String)
deriving DecidableEq

namespace ResourceFault

def message : ResourceFault → String
  | noRow => "cursor is not positioned on a row"
  | noColumn index count =>
    "column index " ++ Text.intText index ++ " out of range (1..=" ++ Text.intText count ++ ")"
  | noParameter => "parameter indexes start at 1"
  | connectionClosed => "connection is closed"
  | noResult sql => "no result registered for query: " ++ sql
  | noTable name => "table " ++ name ++ " does not exist"
  | registration _ _ message => message
  | noBounds _ => "bounding query returned no rows"
  | boundsCrossed least greatest _ =>
    "bounding query returned min " ++ Text.intText least ++ " above max " ++
      Text.intText greatest
  | oneNullBound _ => "bounding query returned exactly one NULL bound"
  | receiverGone => "record channel closed by the receiver"
  | other message _ => message

def context : ResourceFault → String
  | noRow | noColumn .. | connectionClosed | noResult _ | noTable _ => "memory"
  | noParameter => "memory statement"
  | registration id scheme _ => "registering driver '" ++ id ++ "' (" ++ scheme ++ ")"
  | noBounds sql | boundsCrossed _ _ sql | oneNullBound sql => sql
  | receiverGone => "source unit"
  | other _ context => context

end ResourceFault

inductive ConfigFault where
  | identifier (fault : IdentifierFault)
  | unknownDialect (name : String) (available : List String)
  | repeatedColumn (name : String)
  | noFields (qualified : String)
  | noSplits
  | noConditions
  | noSplitColumn
  | dialectNotKnown (name : String) (available : List String)
  | importQueryMissing
  | splitCountZero
  | splitConditionsMissing
  | splitColumnMissing
  | boundingQueryMissing
  | sinkTable (fault : IdentifierFault)
  | sinkSchema (fault : IdentifierFault)
  | nothingConfigured
  | configRequired
  | sourceRequired
  | boundsApart
  | other (message : String)
deriving DecidableEq

def ConfigFault.message : ConfigFault → String
  | identifier fault => fault.message
  | unknownDialect name available =>
    "Unknown dialect '" ++ name ++ "'. Available dialects: " ++ ", ".intercalate available
  | repeatedColumn name =>
    "Duplicate column name '" ++ name ++ "' in result set; alias the column in the query"
  | noFields qualified => "no fields to insert into " ++ qualified
  | noSplits => "num_splits must be at least 1"
  | noConditions => "import query must contain $CONDITIONS to be split"
  | noSplitColumn => "a split column is required to split an import"
  | dialectNotKnown name available =>
    "dialect '" ++ name ++ "' is not known. Available dialects: " ++ ", ".intercalate available
  | importQueryMissing => "source.import_query is required"
  | splitCountZero => "source.num_splits must be at least 1"
  | splitConditionsMissing =>
    "source.import_query must contain $CONDITIONS when the import is split"
  | splitColumnMissing => "source.split_by is required when the import is split"
  | boundingQueryMissing => "source.bounding_query is required when the import is split"
  | sinkTable fault => "sink.table: Configuration error: " ++ fault.message
  | sinkSchema fault => "sink.schema_name: Configuration error: " ++ fault.message
  | nothingConfigured => "at least one of source or sink must be configured"
  | configRequired => "--config is required for splits"
  | sourceRequired => "the configuration has no source section"
  | boundsApart => "--min and --max must be given together"
  | other message => message

inductive DecodeFault where
  | shape
  | missingKey (key : String)
  | node (fault : NodeFault)
deriving DecidableEq

inductive FailureKind where
  | missingField
  | typeMismatch
  | nullabilityMismatch
deriving DecidableEq

def FailureKind.tag : FailureKind → String
  | missingField => "MISSING_FIELD"
  | typeMismatch => "TYPE_MISMATCH"
  | nullabilityMismatch => "NULLABILITY_MISMATCH"

/-- The schema that a failure points at: the one that records arrive with, or leave with. -/
inductive FailureCause where
  | inputSchema
  | outputSchema
deriving DecidableEq

def FailureCause.tag : FailureCause → String
  | inputSchema => "INPUT_SCHEMA_FIELD"
  | outputSchema => "OUTPUT_SCHEMA_FIELD"

structure Failure where
  kind : FailureKind
  message : String
  field : String
  cause : FailureCause
  expected : Option String := none
  actual : Option String := none
  action : Option String := none
deriving DecidableEq

def Failure.text (f : Failure) : String :=
  match f.action with
  | some action => f.message ++ " (" ++ action ++ ")"
  | none => f.message

inductive Error where
  | unsupportedType (column : String) (code : Int) (typeName : String)
  | conversion (field : String) (fault : ConversionFault)
  | resource (fault : ResourceFault)
  | validation (failures : List Failure)
  | config (fault : ConfigFault)
  | io (message : String)
  | yaml
  | json (fault : DecodeFault)
deriving DecidableEq

def DecodeFault.message? : DecodeFault → Option String
  | shape => none
  | missingKey key => some ("missing field `" ++ key ++ "`")
  | node fault => some fault.message

namespace Error

def message : Error → String
  | unsupportedType column code typeName =>
    "Unsupported column type for '" ++ column ++ "': type code " ++ Text.intText code ++ " (" ++
      typeName ++ ")"
  | conversion field fault =>
    "Row conversion failed for field '" ++ field ++ "': " ++ fault.message
  | resource fault =>
    "Resource acquisition failed: " ++ fault.message ++ "\n  Context: " ++ fault.context
  | validation failures =>
    "Schema validation failed with " ++ Text.intText failures.length ++ " problem(s): " ++
      "; ".intercalate (failures.map Failure.message)
  | config fault => "Configuration error: " ++ fault.message
  | io message => "IO error: " ++ message
  | yaml => "YAML error:"
  | json fault =>
    match fault.message? with
    | some text => "JSON error: " ++ text
    | none => "JSON error:"

def detailed (e : Error) : String :=
  let lines := match e with
    | validation failures => String.join (failures.map fun f => "\n  - " ++ f.text)
    | io message => "\nCaused by:\n  1: " ++ message
    | _ => ""
  "Error: " ++ e.message ++ "\n" ++ lines

def exitCode : Error → Nat
  | validation _ => 2
  | unsupportedType .. => 3
  | conversion .. => 4
  | resource _ => 5
  | config _ | io _ | yaml | json _ => 1

def isFatal : Error → Bool
  | validation _ => false
  | _ => true

end Error

end TableTransfer
