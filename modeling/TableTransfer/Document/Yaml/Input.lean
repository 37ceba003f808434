namespace TableTransfer.Yaml

structure Input where
  rest : List Char
  line : Nat := 0
  column : Nat := 0
  index : Nat := 0

def isSpacing (c : Char) : Bool := c == ' ' || c == '\t'

def isBreak (c : Char) : Bool :=
  let n := c.toNat
  n == 10 || n == 13 || n == 0x85 || n == 0x2028 || n == 0x2029

def endsWord : List Char → Bool
  | [] => true
  | c :: _ => isSpacing c || isBreak c

def isAllowed (c : Char) : Bool :=
  let n := c.toNat
  n == 9 || n == 10 || n == 13 || (32 ≤ n && n ≤ 126) || n == 0x85 || (0xA0 ≤ n && n ≤ 0xD7FF) ||
    (0xE000 ≤ n && n ≤ 0xFFFD && n != 0xFEFF) || 0x10000 ≤ n

namespace Input

def skip (i : Input) (n : Nat) : Input :=
  { i with rest := i.rest.drop n, column := i.column + n, index := i.index + n }

def lineBreak? (i : Input) : Option (Char × Input) :=
  match i.rest with
  | '\r' :: '\n' :: cs => some ('\n', ⟨cs, i.line + 1, 0, i.index + 2⟩)
  | c :: cs =>
    if isBreak c then
      some (if c.toNat < 0x2028 then '\n' else c, ⟨cs, i.line + 1, 0, i.index + 1⟩)
    else none
  | [] => none

def lineText (i : Input) : List Char := i.rest.takeWhile fun c => !isBreak c

def skipLine (i : Input) : Input := i.skip i.lineText.length

def skipSpacing (i : Input) : Input := i.skip (i.rest.takeWhile isSpacing).length

def isAtMark (i : Input) (mark : Char) : Bool :=
  i.column == 0 && i.rest.take 3 == [mark, mark, mark] && endsWord (i.rest.drop 3)

def isAtDocumentMark (i : Input) : Bool := i.isAtMark '-' || i.isAtMark '.'

end Input

end TableTransfer.Yaml
