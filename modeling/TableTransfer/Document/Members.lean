import TableTransfer.Document.Plain
import TableTransfer.Error

namespace TableTransfer.Document

def asText (d : Document) : Except DecodeFault String :=
  match d.bare with
  | text s | plain s => .ok s
  | _ => .error .shape

def asBool (d : Document) : Except DecodeFault Bool :=
  match d.bare with
  | bool b => .ok b
  | plain s =>
    match Plain.bool? s with
    | some b => .ok b
    | none => .error .shape
  | _ => .error .shape

def asInt (low high : Int) (d : Document) : Except DecodeFault Int :=
  let n? := match d.bare with
    | int n => some n
    | plain s => Plain.int? s
    | _ => none
  match n? with
  | some n => if low ≤ n ∧ n ≤ high then .ok n else .error .shape
  | none => .error .shape

def asInt32 (d : Document) : Except DecodeFault Int := d.asInt (-0x80000000) 0x7fffffff

def asNat32 (d : Document) : Except DecodeFault Nat := do
  return (← d.asInt 0 0xffffffff).toNat

def asNat64 (d : Document) : Except DecodeFault Nat :=
  match d.bare with
  | plain s =>
    match Plain.nat? s with
    | some n => if n ≤ 0xffffffffffffffff then .ok n else .error .shape
    | none => .error .shape
  | d => do return (← d.asInt 0 0xffffffffffffffff).toNat

/-- Nothing, or what `read` makes of the document. A leaf that is marked as nothing has to be
one of the words for it. -/
def asOption {α : Type} (read : Document → Except DecodeFault α) (d : Document) :
    Except DecodeFault (Option α) :=
  match d with
  | null => .ok none
  | plain s => if Plain.isNull s then .ok none else some <$> read d
  | marked .null (plain s) => if Plain.isNullWord s then .ok none else .error .shape
  | d => some <$> read d

def asList {α : Type} (read : Document → Except DecodeFault α) (d : Document) :
    Except DecodeFault (List α) :=
  match d.bare with
  | list items => items.mapM read
  | plain "" => .ok []
  | _ => .error .shape

def repeats (names : List String) (entries : List (String × Document)) : Bool :=
  names.any fun name => 1 < (valuesAt name entries).length

def firstMissing? (names : List String) (entries : List (String × Document)) : Option String :=
  names.find? fun name => (valuesAt name entries).isEmpty

structure Layout where
  names : List String
  required : List String

/-- Reads the entries of a map in turn. A list has the values of the first members in their
order, an empty plain leaf has none. -/
def build {α : Type} (layout : Layout) (start : α)
    (set : α → String → Document → Except DecodeFault α) (d : Document) : Except DecodeFault α :=
  match d.bare with
  | map entries => ofEntries entries
  | plain "" => ofEntries []
  | list items =>
    let entries := layout.names.zip items
    if layout.names.length < items.length || (firstMissing? layout.required entries).isSome then
      .error .shape
    else ofEntries entries
  | _ => .error .shape
where
  ofEntries (entries : List (String × Document)) : Except DecodeFault α := do
    if repeats layout.names entries then throw .shape
    let a ← entries.foldlM (fun a e => set a e.1 e.2) start
    match firstMissing? layout.required entries with
    | some name => throw (.missingKey name)
    | none => return a

end TableTransfer.Document
