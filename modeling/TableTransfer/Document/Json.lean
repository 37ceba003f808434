import TableTransfer.Binary.Shortest
import TableTransfer.Document.Basic
import TableTransfer.Text.Number

namespace TableTransfer.Json

def escapedChar (c : Char) : List Char :=
  match c with
  | '\"' => ['\\', '\"']
  | '\\' => ['\\', '\\']
  | '\n' => ['\\', 'n']
  | '\r' => ['\\', 'r']
  | '\t' => ['\\', 't']
  | '\x08' => ['\\', 'b']
  | '\x0c' => ['\\', 'f']
  | c => if c.toNat < 32 then '\\' :: 'u' :: Text.hexNat 4 c.toNat else [c]

def stringText (s : String) : String :=
  "\"" ++ String.ofList (s.toList.flatMap escapedChar) ++ "\""

def leafText : Document → String
  | .bool true => "true"
  | .bool false => "false"
  | .int n => Text.intText n
  | .real x => if x.isFinite then x.text else "null"
  | .text s | .plain s => stringText s
  | _ => "null"

mutual

def compact : Document → String
  | .list items => "[" ++ compactItems items true ++ "]"
  | .map entries => "\x7b" ++ compactEntries entries true ++ "\x7d"
  | d => leafText d

def compactItems : List Document → Bool → String
  | [], _ => ""
  | d :: rest, first => (if first then "" else ",") ++ compact d ++ compactItems rest false

def compactEntries : List (String × Document) → Bool → String
  | [], _ => ""
  | (k, d) :: rest, first =>
    (if first then "" else ",") ++ stringText k ++ ":" ++ compact d ++ compactEntries rest false

end

def newline (depth : Nat) : String := "\n" ++ String.ofList (List.replicate (2 * depth) ' ')

mutual

def pretty (depth : Nat) : Document → String
  | .list [] => "[]"
  | .list (d :: items) => "[" ++ prettyItems (depth + 1) (d :: items) true ++ newline depth ++ "]"
  | .map [] => "\x7b\x7d"
  | .map (e :: entries) =>
    "\x7b" ++ prettyEntries (depth + 1) (e :: entries) true ++ newline depth ++ "\x7d"
  | d => leafText d

def prettyItems (depth : Nat) : List Document → Bool → String
  | [], _ => ""
  | d :: rest, first =>
    (if first then "" else ",") ++ newline depth ++ pretty depth d ++ prettyItems depth rest false

def prettyEntries (depth : Nat) : List (String × Document) → Bool → String
  | [], _ => ""
  | (k, d) :: rest, first =>
    (if first then "" else ",") ++ newline depth ++ stringText k ++ ": " ++ pretty depth d ++
      prettyEntries depth rest false

end

end TableTransfer.Json
