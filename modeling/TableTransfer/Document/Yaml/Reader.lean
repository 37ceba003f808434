import TableTransfer.Document.Basic
import TableTransfer.Document.Yaml.Token

namespace TableTransfer.Yaml

def usualHandles : List (String × String) := [("", ""), ("!", "!"), ("!!", "tag:yaml.org,2002:")]

/-- Tokens that are left, the parts that have names, and what the handles are short for. -/
structure Unread where
  tokens : List Token
  named : List (String × Document) := []
  handles : List (String × String) := usualHandles

namespace Unread

def skip (u : Unread) : Unread := { u with tokens := u.tokens.tail }

def next? (u : Unread) : Option Token := u.tokens.head?

def isAt (u : Unread) (ts : List Token) : Bool := u.next?.any ts.contains

def expect (u : Unread) (t : Token) : Option Unread :=
  if u.next? == some t then some u.skip else none

end Unread

def emptyLeaf : Document := .plain ""

structure Properties where
  anchor : Option String := none
  tag : Option Tag := none

def Properties.read (u : Unread) : Properties × Unread :=
  match u.tokens with
  | .anchor a :: .tag t :: rest => ({ anchor := some a, tag := some t }, { u with tokens := rest })
  | .tag t :: .anchor a :: rest => ({ anchor := some a, tag := some t }, { u with tokens := rest })
  | .anchor a :: rest => ({ anchor := some a }, { u with tokens := rest })
  | .tag t :: rest => ({ tag := some t }, { u with tokens := rest })
  | _ => ({}, u)

def Properties.isEmpty (p : Properties) : Bool := p.anchor.isNone && p.tag.isNone

def Properties.name (p : Properties) (d : Document) (u : Unread) : Unread :=
  match p.anchor with
  | some a => { u with named := (a, d) :: u.named }
  | none => u

def mark? (name : String) : Option Mark :=
  match name with
  | "!" => none
  | "tag:yaml.org,2002:null" => some .null
  | "tag:yaml.org,2002:bool" => some .bool
  | "tag:yaml.org,2002:int" => some .int
  | "tag:yaml.org,2002:float" => some .real
  | name => some (if name.toList.head? == some '!' then .foreign else .text)

def Properties.mark? (p : Properties) (u : Unread) : Option (Option Mark) :=
  match p.tag with
  | some t => (u.handles.lookup t.handle).map fun start => Yaml.mark? (start ++ t.suffix)
  | none => some none

def withMark (d : Document) : Option Mark → Document
  | some m => .marked m d
  | none => d

def keyText? (d : Document) : Option String :=
  match d.bare with
  | .plain s | .text s => some s
  | _ => none

def consItem (d : Document) : Document × Unread → Option (Document × Unread)
  | (.list items, u) => some (.list (d :: items), u)
  | _ => none

def consEntry (k v : Document) : Document × Unread → Document × Unread
  | (.map entries, u) =>
    match keyText? k with
    | some name => (.map ((name, v) :: entries), u)
    | none => (.other, u)
  | (_, u) => (.other, u)

mutual

/-- A node; `block` allows blocks in it, `loose` a list that is not indented. -/
def node? (block loose : Bool) : Nat → Unread → Option (Document × Unread)
  | 0, _ => none
  | fuel + 1, u => do
    if let some (.alias name) := u.next? then
      return (← u.named.lookup name, u.skip)
    let (p, u) := Properties.read u
    let m? ← p.mark? u
    let u := p.name .unreadable u
    let (d, u) ← match u.next? with
      | some (.plain s) => some (.plain s, u.skip)
      | some (.text s) => some (.text s, u.skip)
      | some .openList => flowItems? fuel true u.skip
      | some .openMap => flowEntries? fuel true u.skip
      | some .item =>
        if loose then looseItems? fuel u
        else if p.isEmpty then none else some (emptyLeaf, u)
      | some .blockList =>
        if block then blockItems? fuel u.skip
        else if p.isEmpty then none else some (emptyLeaf, u)
      | some .blockMap =>
        if block then blockEntries? fuel u.skip
        else if p.isEmpty then none else some (emptyLeaf, u)
      | _ => if p.isEmpty then none else some (emptyLeaf, u)
    let d := withMark d m?
    return (d, p.name d u)

def blockItems? : Nat → Unread → Option (Document × Unread)
  | 0, _ => none
  | fuel + 1, u => do
    if u.isAt [.blockEnd] then return (.list [], u.skip)
    let u ← u.expect .item
    let (d, u) ←
      if u.isAt [.item, .blockEnd] then some (emptyLeaf, u) else node? true false fuel u
    consItem d (← blockItems? fuel u)

def looseItems? : Nat → Unread → Option (Document × Unread)
  | 0, _ => none
  | fuel + 1, u => do
    if !u.isAt [.item] then return (.list [], u)
    let u := u.skip
    let (d, u) ←
      if u.isAt [.item, .key, .value, .blockEnd] then some (emptyLeaf, u)
      else node? true false fuel u
    consItem d (← looseItems? fuel u)

def blockEntries? : Nat → Unread → Option (Document × Unread)
  | 0, _ => none
  | fuel + 1, u => do
    if u.isAt [.blockEnd] then return (.map [], u.skip)
    let u ← u.expect .key
    let (k, u) ← blockPart? fuel u
    let (v, u) ← if u.isAt [.value] then blockPart? fuel u.skip else some (emptyLeaf, u)
    return consEntry k v (← blockEntries? fuel u)

def blockPart? : Nat → Unread → Option (Document × Unread)
  | 0, _ => none
  | fuel + 1, u =>
    if u.isAt [.key, .value, .blockEnd] then some (emptyLeaf, u) else node? true true fuel u

/-- The items between brackets. A key among them makes a map of one entry. -/
def flowItems? : Nat → Bool → Unread → Option (Document × Unread)
  | 0, _, _ => none
  | fuel + 1, first, u => do
    if u.isAt [.closeList] then return (.list [], u.skip)
    let u ← if first then some u else u.expect .comma
    if u.isAt [.closeList] then return (.list [], u.skip)
    let (d, u) ← if u.isAt [.key] then flowPair? fuel u.skip else node? false false fuel u
    consItem d (← flowItems? fuel false u)

def flowPair? : Nat → Unread → Option (Document × Unread)
  | 0, _ => none
  | fuel + 1, u => do
    let (k, u) ←
      if u.isAt [.value, .comma, .closeList] then some (emptyLeaf, u.skip)
      else node? false false fuel u
    let (v, u) ←
      if !u.isAt [.value] then some (emptyLeaf, u)
      else if u.skip.isAt [.comma, .closeList] then some (emptyLeaf, u.skip)
      else node? false false fuel u.skip
    return consEntry k v (.map [], u)

def flowEntries? : Nat → Bool → Unread → Option (Document × Unread)
  | 0, _, _ => none
  | fuel + 1, first, u => do
    if u.isAt [.closeMap] then return (.map [], u.skip)
    let u ← if first then some u else u.expect .comma
    if u.isAt [.closeMap] then return (.map [], u.skip)
    if !u.isAt [.key] then
      let (k, u) ← node? false false fuel u
      return consEntry k emptyLeaf (← flowEntries? fuel false u)
    let (k, u) ←
      if u.skip.isAt [.value, .comma, .closeMap] then some (emptyLeaf, u.skip)
      else node? false false fuel u.skip
    let (v, u) ←
      if !u.isAt [.value] then some (emptyLeaf, u)
      else if u.skip.isAt [.comma, .closeMap] then some (emptyLeaf, u.skip)
      else node? false false fuel u.skip
    return consEntry k v (← flowEntries? fuel false u)

end

def isDirective : Token → Bool
  | .version | .handle _ _ => true
  | _ => false

def handle? : Token → Option (String × String)
  | .handle name start => some (name, start)
  | _ => none

def areDirectives (ts : List Token) : Bool :=
  ts.count .version ≤ 1 && ((ts.filterMap handle?).map Prod.fst).Nodup

def content? (fuel : Nat) (u : Unread) : Option (Document × Unread) :=
  if u.tokens.isEmpty || u.next?.any isDirective || u.isAt [.documentStart, .documentEnd] then
    some (emptyLeaf, u)
  else node? true false fuel u

def ofTokens? (ts : List Token) : Option Document := do
  let fuel := 3 * ts.length + 3
  if ts.isEmpty then return emptyLeaf
  let directives := ts.takeWhile isDirective
  if !areDirectives directives then none
  let u : Unread :=
    { tokens := ts.dropWhile isDirective, handles := directives.filterMap handle? ++ usualHandles }
  let (d, u) ←
    if !directives.isEmpty || u.isAt [.documentStart] then do
      content? fuel (← u.expect .documentStart)
    else node? true false fuel u
  if (u.tokens.dropWhile (· == .documentEnd)).isEmpty then return d else none

def ofText? (s : String) : Option Document := ((tokens? s).bind ofTokens?).map (Document.cut 128)

end TableTransfer.Yaml
