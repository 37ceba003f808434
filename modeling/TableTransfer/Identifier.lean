import TableTransfer.Text.Basic
import TableTransfer.Text.Number
import TableTransfer.Text.Quoted

namespace TableTransfer

structure Quotes where
  opening : Char
  closing : Char
deriving DecidableEq

namespace Quotes

def double (closing : Char) : List Char → List Char
  | [] => []
  | c :: cs => if c = closing then closing :: closing :: double closing cs else c :: double closing cs

/-- Each closing delimiter stands right before another one, counted from the left. -/
def isDoubled (closing : Char) : List Char → Bool
  | [] => true
  | c :: cs =>
    if c = closing then
      match cs with
      | [] => false
      | d :: cs => d == closing && isDoubled closing cs
    else isDoubled closing cs

def body? (q : Quotes) (cs : List Char) : Option (List Char) :=
  match cs with
  | [] => none
  | c :: rest => if c = q.opening then Text.dropEnd? [q.closing] rest else none

def isQuoted (q : Quotes) (cs : List Char) : Bool :=
  match q.body? cs with
  | some body => isDoubled q.closing body
  | none => false

def escape (q : Quotes) (cs : List Char) : List Char :=
  if q.isQuoted cs then cs else q.opening :: double q.closing cs ++ [q.closing]

end Quotes

inductive IdentifierFault where
  | empty
  | nul (name : String)
  | tooLong (name : String)
deriving DecidableEq

namespace Identifier

def maxBytes : Nat := 128

def fault? (name : String) : Option IdentifierFault :=
  if name = "" then some .empty
  else if '\x00' ∈ name.toList then some (.nul name)
  else if maxBytes < name.utf8ByteSize then some (.tooLong name)
  else none

end Identifier

def IdentifierFault.message : IdentifierFault → String
  | empty => "Identifier cannot be empty"
  | nul name =>
    "SECURITY: Identifier contains null byte (possible injection attempt): " ++ Text.quoted name
  | tooLong name =>
    "SECURITY: Identifier exceeds maximum length of 128 bytes (got " ++
      Text.intText name.utf8ByteSize ++ " bytes): " ++ Text.quoted name

theorem Quotes.isDoubled_double (closing : Char) (cs : List Char) :
    isDoubled closing (double closing cs) = true := by
  induction cs with
  | nil => rfl
  | cons c cs ih =>
    by_cases h : c = closing
    · simp [double, isDoubled, h, ih]
    · simp only [double, if_neg h]
      unfold isDoubled
      simp [h, ih]

end TableTransfer
