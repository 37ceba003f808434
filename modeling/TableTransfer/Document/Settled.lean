import TableTransfer.Document.Plain
import TableTransfer.Error

namespace TableTransfer

def Mark.leaf? (m : Mark) (s : String) : Option Document :=
  match m with
  | .null => if Plain.isNullWord s then some .null else none
  | .bool => (Plain.bool? s).map .bool
  | .int => (Plain.int? s).map .int
  | .real => (Plain.real? s).map .real
  | .text => some (.text s)
  | .foreign => none

namespace Document

def isNarrow : Document → Bool
  | int n => -0x8000000000000000 ≤ n && n ≤ 0xffffffffffffffff
  | _ => true

def settledLeaf (d? : Option Document) : Except DecodeFault Document :=
  match d?.filter isNarrow with
  | some d => .ok d
  | none => .error .shape

mutual

def settled : Document → Except DecodeFault Document
  | plain s => settledLeaf (some (Plain.resolve s))
  | marked m (plain s) | marked m (text s) => settledLeaf (m.leaf? s)
  | marked .foreign _ | unreadable => .error .shape
  | marked _ d => settled d
  | list items => do return list (← settledItems items)
  | map entries => do return map (← settledEntries entries)
  | d => .ok d

def settledItems : List Document → Except DecodeFault (List Document)
  | [] => .ok []
  | d :: items => do return (← settled d) :: (← settledItems items)

def settledEntries :
    List (String × Document) → Except DecodeFault (List (String × Document))
  | [] => .ok []
  | (name, d) :: entries => do return (name, ← settled d) :: (← settledEntries entries)

end

end Document

end TableTransfer
