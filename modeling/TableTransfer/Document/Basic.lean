import TableTransfer.Binary.Basic

namespace TableTransfer

inductive Mark where
  | null
  | bool
  | int
  | real
  | text
  | foreign
deriving DecidableEq

/-- A `plain` leaf is one whose text decides itself what it stands for. `other` is a map with an
entry that no text names. What is `unreadable` can only be passed over: a part that contains
itself or lies too deep, a number that is too large, a text with half of a character. -/
inductive Document where
  | null
  | bool (b : Bool)
  | int (n : Int)
  | real (x : Binary64)
  | text (s : String)
  | plain (s : String)
  | list (items : List Document)
  | map (entries : List (String × Document))
  | marked (m : Mark) (d : Document)
  | other
  | unreadable

namespace Document

def valuesAt (key : String) (entries : List (String × Document)) : List Document :=
  (entries.filter fun e => e.1 == key).map Prod.snd

def bare : Document → Document
  | marked _ d => d
  | d => d

mutual

def cut (depth : Nat) : Document → Document
  | list items =>
    match depth with
    | 0 => unreadable
    | depth + 1 => list (cutItems depth items)
  | map entries =>
    match depth with
    | 0 => unreadable
    | depth + 1 => map (cutEntries depth entries)
  | marked m d => marked m (cut depth d)
  | d => d

def cutItems (depth : Nat) : List Document → List Document
  | [] => []
  | d :: items => cut depth d :: cutItems depth items

def cutEntries (depth : Nat) : List (String × Document) → List (String × Document)
  | [] => []
  | (name, d) :: entries => (name, cut depth d) :: cutEntries depth entries

end

end Document

end TableTransfer
