import TableTransfer.Document.Yaml.Input
import TableTransfer.Text.Number

namespace TableTransfer.Yaml

/-- White space between two words. Where it has line breaks its blanks do not count. -/
structure Gap where
  blanks : List Char := []
  breaks : List Char := []
  folded : Bool := false
  hidden : Bool := false

def Gap.text (g : Gap) : List Char :=
  if !g.folded then g.blanks
  else if g.hidden then g.breaks
  else
    match g.breaks with
    | ['\n'] => [' ']
    | '\n' :: more => more
    | breaks => breaks

def Gap.readFrom (margin : Nat) : Nat → Gap → Input → Option (Gap × Input)
  | 0, g, i => some (g, i)
  | fuel + 1, g, i =>
    match i.rest with
    | [] => some (g, i)
    | c :: _ =>
      if isSpacing c then
        if !g.folded then readFrom margin fuel { g with blanks := g.blanks ++ [c] } (i.skip 1)
        else if i.column < margin && c == '\t' then none
        else readFrom margin fuel g (i.skip 1)
      else
        match i.lineBreak? with
        | some (b, i) =>
          readFrom margin fuel { g with blanks := [], breaks := g.breaks ++ [b], folded := true } i
        | none => some (g, i)

def Gap.read (margin : Nat) (g : Gap) (i : Input) : Option (Gap × Input) :=
  readFrom margin (i.rest.length + 1) g i

def isFlowMark (c : Char) : Bool := [',', '[', ']', '\x7b', '\x7d'].contains c

/-- A word of a plain text and what follows it. A colon before a blank ends it, and between
brackets a comma or bracket does. -/
def plainWord (inFlow : Bool) : List Char → Option (List Char × List Char)
  | [] => some ([], [])
  | c :: cs =>
    if isSpacing c || isBreak c then some ([], c :: cs)
    else if inFlow && c == ':' && cs.head?.any fun d => isFlowMark d || d == '?' then none
    else if (c == ':' && endsWord cs) || (inFlow && isFlowMark c) then some ([], c :: cs)
    else (plainWord inFlow cs).map fun (word, rest) => (c :: word, rest)

/-- Words of a plain text after a gap, whether the text ends with the end of a line, and what
follows. Lines that go on with it are indented up to `margin`. -/
def plainFrom (inFlow : Bool) (margin : Nat) :
    Nat → Gap → Input → Option (List Char × Bool × Input)
  | 0, g, i => some ([], g.folded, i)
  | fuel + 1, g, i => do
    if i.isAtDocumentMark || i.rest.head? == some '#' then return ([], g.folded, i)
    let (word, rest) ← plainWord inFlow i.rest
    if word.isEmpty then return ([], g.folded, i)
    let text := g.text ++ word
    let i := i.skip word.length
    if rest.isEmpty || !endsWord rest then return (text, false, i)
    let (g, i) ← Gap.read margin {} i
    if !inFlow && i.column < margin then return (text, g.folded, i)
    let (more, folded, i) ← plainFrom inFlow margin fuel g i
    return (text ++ more, folded, i)

def plain (inFlow : Bool) (margin : Nat) (i : Input) : Option (List Char × Bool × Input) :=
  plainFrom inFlow margin (i.rest.length + 1) {} i

def singleWord : List Char → List Char × Nat
  | '\'' :: '\'' :: cs =>
    let (word, n) := singleWord cs
    ('\'' :: word, n + 2)
  | c :: cs =>
    if c == '\'' || isSpacing c || isBreak c then ([], 0)
    else
      let (word, n) := singleWord cs
      (c :: word, n + 1)
  | [] => ([], 0)

def hexChar? (width : Nat) (cs : List Char) : Option (Char × Nat) := do
  if cs.length < width then none
  let n ← Text.hexNat? (cs.take width)
  if n.isValidChar then return (Char.ofNat n, width + 1) else none

def escaped? : List Char → Option (Char × Nat)
  | '0' :: _ => some ('\x00', 1)
  | 'a' :: _ => some ('\x07', 1)
  | 'b' :: _ => some ('\x08', 1)
  | 't' :: _ | '\t' :: _ => some ('\t', 1)
  | 'n' :: _ => some ('\n', 1)
  | 'v' :: _ => some ('\x0b', 1)
  | 'f' :: _ => some ('\x0c', 1)
  | 'r' :: _ => some ('\r', 1)
  | 'e' :: _ => some ('\x1b', 1)
  | ' ' :: _ => some (' ', 1)
  | '\"' :: _ => some ('\"', 1)
  | '/' :: _ => some ('/', 1)
  | '\\' :: _ => some ('\\', 1)
  | 'N' :: _ => some (Char.ofNat 0x85, 1)
  | '_' :: _ => some (Char.ofNat 0xA0, 1)
  | 'L' :: _ => some (Char.ofNat 0x2028, 1)
  | 'P' :: _ => some (Char.ofNat 0x2029, 1)
  | 'x' :: cs => hexChar? 2 cs
  | 'u' :: cs => hexChar? 4 cs
  | 'U' :: cs => hexChar? 8 cs
  | _ => none

def doubleWord : Nat → List Char → Option (List Char × Nat × Bool)
  | 0, _ => some ([], 0, false)
  | fuel + 1, cs =>
    match cs with
    | [] | '\"' :: _ => some ([], 0, false)
    | '\\' :: cs =>
      if cs.head?.any isBreak then some ([], 1, true)
      else do
        let (c, n) ← escaped? cs
        let (word, m, hidden) ← doubleWord fuel (cs.drop n)
        return (c :: word, 1 + n + m, hidden)
    | c :: cs =>
      if isSpacing c || isBreak c then some ([], 0, false)
      else do
        let (word, n, hidden) ← doubleWord fuel cs
        return (c :: word, n + 1, hidden)

def quotedFrom (double : Bool) : Nat → Input → Option (List Char × Input)
  | 0, _ => none
  | fuel + 1, i => do
    if i.isAtDocumentMark || i.rest.isEmpty then none
    let (word, n, hidden) ←
      if double then doubleWord i.rest.length i.rest
      else
        let (word, n) := singleWord i.rest
        some (word, n, false)
    let i := i.skip n
    if i.rest.head? == some (if double then '\"' else '\'') then return (word, i.skip 1)
    let (g, i) ←
      if hidden then do
        let (_, i) ← i.lineBreak?
        Gap.read 0 { folded := true, hidden := true } i
      else Gap.read 0 {} i
    let (more, i) ← quotedFrom double fuel i
    return (word ++ g.text ++ more, i)

def quoted (double : Bool) (i : Input) : Option (List Char × Input) :=
  quotedFrom double (i.rest.length + 1) i

inductive Chomp where
  | clip
  | strip
  | keep
deriving DecidableEq

def chomp? : List Char → Chomp × List Char
  | '+' :: cs => (.keep, cs)
  | '-' :: cs => (.strip, cs)
  | cs => (.clip, cs)

def increment? (cs : List Char) : Option (Nat × List Char) :=
  match cs with
  | c :: rest =>
    if c.isDigit then (if c == '0' then none else some (Text.digitValue c, rest))
    else some (0, cs)
  | [] => some (0, cs)

def blockHeader? (cs : List Char) : Option (Chomp × Nat × List Char) := do
  match chomp? cs with
  | (.clip, cs) =>
    let (n, cs) ← increment? cs
    let (chomp, cs) := if n = 0 then (.clip, cs) else chomp? cs
    return (chomp, n, cs)
  | (chomp, cs) =>
    let (n, cs) ← increment? cs
    return (chomp, n, cs)

/-- Empty lines, and the indentation of the line after them: the given one, or if that is zero
the largest that was met, at least `least`. -/
def blockGap (least indent : Nat) :
    Nat → Nat → List Char → Input → Option (Nat × List Char × Input)
  | 0, _, _, _ => none
  | fuel + 1, widest, breaks, i => do
    let blanks := (i.rest.takeWhile (· == ' ')).length
    let i := i.skip (if indent = 0 then blanks else min blanks (indent - i.column))
    let widest := max widest i.column
    if (indent = 0 || i.column < indent) && i.rest.head? == some '\t' then none
    match i.lineBreak? with
    | some (b, i) => blockGap least indent fuel widest (breaks ++ [b]) i
    | none => return (if indent = 0 then max widest (max least 1) else indent, breaks, i)

/-- Where reading of indented lines stands: the end of the last line and the empty lines after
it, and whether the last line began with a blank. -/
structure BlockEnd where
  lineEnd : List Char := []
  empties : List Char := []
  blankStart : Bool := false

def BlockEnd.joint (e : BlockEnd) (literal blankNext : Bool) : List Char :=
  if !literal && e.lineEnd == ['\n'] && !e.blankStart && !blankNext then
    if e.empties.isEmpty then [' '] else e.empties
  else e.lineEnd ++ e.empties

def blockLines (literal : Bool) (indent : Nat) :
    Nat → BlockEnd → Input → Option (List Char × BlockEnd × Input)
  | 0, _, _ => none
  | fuel + 1, e, i => do
    if i.column != indent || i.rest.isEmpty then return ([], e, i)
    let blank := i.rest.head?.any isSpacing
    let text := e.joint literal blank ++ i.lineText
    let i := i.skipLine
    let (lineEnd, i) := match i.lineBreak? with
      | some (b, i) => ([b], i)
      | none => ([], i)
    let (_, empties, i) ← blockGap 0 indent (i.rest.length + 1) 0 [] i
    let (more, e, i) ← blockLines literal indent fuel ⟨lineEnd, empties, blank⟩ i
    return (text ++ more, e, i)

def block (literal : Bool) (outer : Int) (i : Input) : Option (List Char × Input) := do
  let (chomp, increment, rest) ← blockHeader? i.rest
  let i := (i.skip (i.rest.length - rest.length)).skipSpacing
  let i := if i.rest.head? == some '#' then i.skipLine else i
  let i ← match i.lineBreak? with
    | some (_, i) => some i
    | none => if i.rest.isEmpty then some i else none
  let given := if increment = 0 then 0 else outer.toNat + increment
  let (indent, empties, i) ← blockGap (outer + 1).toNat given (i.rest.length + 1) 0 [] i
  let (text, e, i) ← blockLines literal indent (i.rest.length + 1) { empties } i
  let final := match chomp with
    | .clip => e.lineEnd
    | .strip => []
    | .keep => e.lineEnd ++ e.empties
  return (text ++ final, i)

end TableTransfer.Yaml
