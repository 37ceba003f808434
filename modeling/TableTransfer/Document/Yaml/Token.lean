import TableTransfer.Document.Yaml.Scalar
import TableTransfer.Text.Basic

namespace TableTransfer.Yaml

/-- The two parts of a tag: a handle, which is short for the start of a name, and the rest of
the name. A full name has an empty handle. -/
structure Tag where
  handle : String
  suffix : String
deriving DecidableEq

inductive Token where
  | version
  | handle (name start : String)
  | documentStart
  | documentEnd
  | blockList
  | blockMap
  | blockEnd
  | openList
  | closeList
  | openMap
  | closeMap
  | item
  | comma
  | key
  | value
  | alias (name : String)
  | anchor (name : String)
  | tag (t : Tag)
  | plain (text : String)
  | text (text : String)
deriving DecidableEq

/-- A token that a colon may follow, which makes it a key. -/
structure Candidate where
  required : Bool
  token : Nat
  line : Nat
  column : Nat
  index : Nat

/-- Where cutting stands. The candidates are those of the enclosing brackets, from the inside,
and last the one outside all brackets. -/
structure Lexer where
  input : Input
  tokens : Array Token := #[]
  indent : Int := -1
  outerIndents : List Int := []
  keyAllowed : Bool := true
  candidates : List (Option Candidate) := [none]

namespace Lexer

def inFlow (l : Lexer) : Bool := 1 < l.candidates.length

def push (l : Lexer) (t : Token) : Lexer := { l with tokens := l.tokens.push t }

def take (l : Lexer) (n : Nat) (t : Token) : Lexer := { l.push t with input := l.input.skip n }

def dropStale (l : Lexer) : Option Lexer := do
  let candidates ← l.candidates.mapM fun k? =>
    match k? with
    | none => some none
    | some k =>
      if k.line < l.input.line || k.index + 1024 < l.input.index then
        if k.required then none else some none
      else some (some k)
  return { l with candidates }

/-- The innermost candidate is none any more, which a required one must not become. -/
def dropCandidate (l : Lexer) : Option Lexer :=
  match l.candidates with
  | some k :: rest => if k.required then none else some { l with candidates := none :: rest }
  | _ => some l

def addCandidate (l : Lexer) : Option Lexer :=
  if l.keyAllowed then do
    let l ← l.dropCandidate
    let k : Candidate :=
      { required := !l.inFlow && l.indent == l.input.column, token := l.tokens.size
        line := l.input.line, column := l.input.column, index := l.input.index }
    return { l with candidates := some k :: l.candidates.tail }
  else some l

def unrollFrom (column : Int) : List Int → Lexer → Lexer
  | [], l => l
  | outer :: rest, l =>
    if column < l.indent then
      unrollFrom column rest { l.push .blockEnd with indent := outer, outerIndents := rest }
    else l

def unroll (l : Lexer) (column : Int) : Lexer :=
  if l.inFlow then l else unrollFrom column l.outerIndents l

def roll (l : Lexer) (column n : Nat) (t : Token) : Lexer :=
  if !l.inFlow && l.indent < column then
    { l with
      indent := column, outerIndents := l.indent :: l.outerIndents
      tokens := l.tokens.insertIdxIfInBounds n t }
  else l

def skipBlanksFrom : Nat → Lexer → Lexer
  | 0, l => l
  | fuel + 1, l =>
    let tabs := l.inFlow || !l.keyAllowed
    let i := l.input.skip (l.input.rest.takeWhile fun c => c == ' ' || (tabs && c == '\t')).length
    let i := if i.rest.head? == some '#' then i.skipLine else i
    match i.lineBreak? with
    | some (_, i) =>
      skipBlanksFrom fuel { l with input := i, keyAllowed := l.keyAllowed || !l.inFlow }
    | none => { l with input := i }

def skipBlanks (l : Lexer) : Lexer := skipBlanksFrom (l.input.rest.length + 1) l

def words (cs : List Char) : List (List Char) :=
  let pieces := cs.foldr (fun c ws => if isSpacing c then [] :: ws else Text.consPiece c ws) [[]]
  pieces.filter fun w => !w.isEmpty

def documentMark (l : Lexer) (t : Token) : Option Lexer := do
  let l ← (l.unroll (-1)).dropCandidate
  return { l.take 3 t with keyAllowed := false }

def openBracket (l : Lexer) (t : Token) : Option Lexer := do
  let l ← l.addCandidate
  return { l.take 1 t with keyAllowed := true, candidates := none :: l.candidates }

def closeBracket (l : Lexer) (t : Token) : Option Lexer := do
  let l ← l.dropCandidate
  let candidates := if l.inFlow then l.candidates.tail else l.candidates
  return { l.take 1 t with keyAllowed := false, candidates }

def comma (l : Lexer) : Option Lexer := do
  let l ← l.dropCandidate
  return { l.take 1 .comma with keyAllowed := true }

def item (l : Lexer) : Option Lexer := do
  if !l.inFlow && !l.keyAllowed then none
  let l ← (l.roll l.input.column l.tokens.size .blockList).dropCandidate
  return { l.take 1 .item with keyAllowed := true }

def key (l : Lexer) : Option Lexer := do
  if !l.inFlow && !l.keyAllowed then none
  let l ← (l.roll l.input.column l.tokens.size .blockMap).dropCandidate
  return { l.take 1 .key with keyAllowed := !l.inFlow }

def value (l : Lexer) : Option Lexer :=
  match l.candidates with
  | some k :: rest =>
    let l := { l with
      tokens := l.tokens.insertIdxIfInBounds k.token .key, candidates := none :: rest }
    some { (l.roll k.column k.token .blockMap).take 1 .value with keyAllowed := false }
  | _ =>
    if !l.inFlow && !l.keyAllowed then none
    else
      some { (l.roll l.input.column l.tokens.size .blockMap).take 1 .value with
        keyAllowed := !l.inFlow }

def isNameChar (c : Char) : Bool := c.isAlphanum || c == '_' || c == '-'

def endsName (cs : List Char) : Bool :=
  endsWord cs || cs.head?.any fun c => ['?', ':', ',', ']', '\x7d', '%', '@', '\x60'].contains c

def name (l : Lexer) (make : String → Token) : Option Lexer := do
  let l ← l.addCandidate
  let cs := l.input.rest.tail
  let name := cs.takeWhile isNameChar
  if name.isEmpty || !endsName (cs.dropWhile isNameChar) then none
  return { l.take (name.length + 1) (make (String.ofList name)) with keyAllowed := false }

def isTagChar (c : Char) : Bool :=
  isNameChar c || [';', '/', '?', ':', '@', '&', '=', '+', '$', '.', '%', '!', '~', '*', '\'', '(',
    ')'].contains c

def isFullTagChar (c : Char) : Bool := isTagChar c || [',', '[', ']'].contains c

def isHandle (cs : List Char) : Bool :=
  match cs with
  | ['!'] => true
  | '!' :: cs => cs.dropWhile isNameChar == ['!']
  | _ => false

def directive (l : Lexer) : Option Lexer := do
  let l ← (l.unroll (-1)).dropCandidate
  let t ← match words (l.input.lineText.takeWhile (· != '#')) with
    | [['%', 'Y', 'A', 'M', 'L'], ['1', '.', minor]] =>
      if minor == '1' || minor == '2' then some Token.version else none
    | [['%', 'T', 'A', 'G'], name, start] =>
      if isHandle name && start.all isFullTagChar then
        some (.handle (String.ofList name) (String.ofList start))
      else none
    | _ => none
  return { l.push t with input := l.input.skipLine, keyAllowed := false }

def tag? (cs : List Char) : Option (Tag × Nat) :=
  match cs with
  | '<' :: cs =>
    let name := cs.takeWhile isFullTagChar
    if name.isEmpty || (cs.drop name.length).head? != some '>' then none
    else some (⟨"", String.ofList name⟩, name.length + 2)
  | cs =>
    let name := cs.takeWhile isTagChar
    match name.dropWhile isNameChar with
    | '!' :: suffix =>
      let handle := "!" ++ String.ofList (name.takeWhile isNameChar) ++ "!"
      if suffix.isEmpty then none else some (⟨handle, String.ofList suffix⟩, name.length)
    | _ =>
      if name.isEmpty then some (⟨"", "!"⟩, 0) else some (⟨"!", String.ofList name⟩, name.length)

def tag (l : Lexer) : Option Lexer := do
  let l ← l.addCandidate
  let (t, n) ← tag? l.input.rest.tail
  let rest := l.input.rest.drop (n + 1)
  if !endsWord rest && !(l.inFlow && rest.head? == some ',') then none
  return { l.take (n + 1) (.tag t) with keyAllowed := false }

def block (l : Lexer) (literal : Bool) : Option Lexer := do
  let l ← l.dropCandidate
  let (text, input) ← Yaml.block literal l.indent (l.input.skip 1)
  return { l.push (.text (String.ofList text)) with input, keyAllowed := true }

def quoted (l : Lexer) (double : Bool) : Option Lexer := do
  let l ← l.addCandidate
  let (text, input) ← Yaml.quoted double (l.input.skip 1)
  return { l.push (.text (String.ofList text)) with input, keyAllowed := false }

def plain (l : Lexer) : Option Lexer := do
  let l ← l.addCandidate
  let (text, folded, input) ← Yaml.plain l.inFlow (l.indent + 1).toNat l.input
  return { l.push (.plain (String.ofList text)) with input, keyAllowed := folded }

def isIndicator (c : Char) : Bool :=
  ['-', '?', ':', ',', '[', ']', '\x7b', '\x7d', '#', '&', '*', '!', '|', '>', '\'', '\"', '%',
    '@', '\x60'].contains c

def beginsPlain (l : Lexer) (c : Char) (cs : List Char) : Bool :=
  !(isSpacing c || isBreak c || isIndicator c) ||
    (c == '-' && !cs.head?.any isSpacing) ||
    (!l.inFlow && (c == '?' || c == ':') && !endsWord cs)

def next (l : Lexer) (c : Char) (cs : List Char) : Option Lexer :=
  if l.input.column == 0 && c == '%' then l.directive
  else if l.input.isAtMark '-' then l.documentMark .documentStart
  else if l.input.isAtMark '.' then l.documentMark .documentEnd
  else if c == '[' then l.openBracket .openList
  else if c == '\x7b' then l.openBracket .openMap
  else if c == ']' then l.closeBracket .closeList
  else if c == '\x7d' then l.closeBracket .closeMap
  else if c == ',' then l.comma
  else if c == '-' && endsWord cs then l.item
  else if c == '?' && (l.inFlow || endsWord cs) then l.key
  else if c == ':' && (l.inFlow || endsWord cs) then l.value
  else if c == '*' then l.name .alias
  else if c == '&' then l.name .anchor
  else if c == '!' then l.tag
  else if c == '|' && !l.inFlow then l.block true
  else if c == '>' && !l.inFlow then l.block false
  else if c == '\'' then l.quoted false
  else if c == '\"' then l.quoted true
  else if l.beginsPlain c cs then l.plain
  else none

def run : Nat → Lexer → Option (List Token)
  | 0, _ => none
  | fuel + 1, l => do
    let l ← l.skipBlanks.dropStale
    match l.input.rest with
    | [] => do
      let l ← (l.unroll (-1)).dropCandidate
      return l.tokens.toList
    | c :: cs => do run fuel (← (l.unroll l.input.column).next c cs)

end Lexer

def tokens? (s : String) : Option (List Token) :=
  let cs := match s.toList with
    | c :: cs => if c.toNat == 0xFEFF then cs else c :: cs
    | [] => []
  if cs.all isAllowed then Lexer.run (cs.length + 1) { input := { rest := cs } } else none

end TableTransfer.Yaml
