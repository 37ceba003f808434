namespace TableTransfer.CommandLine

inductive OptionKind where
  | help
  | version
  | flag
  | value
deriving DecidableEq

structure OptionForm where
  name : String
  letter : Option Char := none
  kind : OptionKind
  accepts : String → Bool := fun _ => true
  signed : Bool := false

/-- What the arguments before the first operand, or all of them, come to if they do not give
options to a command. -/
inductive Halt where
  | misused
  | help
  | version
deriving DecidableEq

/-- How a command takes operands. The first one may be the name of another command, to which
the arguments after it belong. -/
inductive OperandKind where
  | none
  | any
  | command
deriving DecidableEq

structure Given where
  options : List (String × String) := []
  operands : List String := []

namespace Given

def addOption (g : Given) (f : OptionForm) (v : String) : Except Halt Given :=
  if (g.options.lookup f.name).isSome || !f.accepts v then .error .misused
  else .ok { g with options := (f.name, v) :: g.options }

def addOperands (g : Given) (kind : OperandKind) (operands : List String) : Except Halt Given :=
  if operands.isEmpty then .ok g
  else if kind = .any then .ok { g with operands := g.operands ++ operands }
  else .error .misused

def value? (g : Given) (name : String) : Option String := g.options.lookup name

end Given

def looksLikeOption (s : String) : Bool :=
  match s.toList with
  | '-' :: _ :: _ => true
  | _ => false

/-- Gives an option its value, which is `attached` to it or else the next argument, and tells
whether that was taken. -/
def OptionForm.apply (f : OptionForm) (g : Given) (attached next : Option String) :
    Except Halt (Given × Bool) :=
  match f.kind, attached, next with
  | .help, none, _ => .error .help
  | .version, none, _ => .error .version
  | .flag, none, _ => do return (← g.addOption f "", false)
  | .value, some v, _ => do return (← g.addOption f v, false)
  | .value, none, some v =>
    if looksLikeOption v && !(f.signed && f.accepts v) then .error .misused
    else do return (← g.addOption f v, true)
  | _, _, _ => .error .misused

def option? (forms : List OptionForm) (cs : List Char) : Option (OptionForm × Option String) :=
  match cs with
  | '-' :: '-' :: cs => do
    let name := String.ofList (cs.takeWhile (· != '='))
    let f ← forms.find? fun f => f.name == name
    return (f, match cs.dropWhile (· != '=') with
      | [] => none
      | _ :: v => some (String.ofList v))
  | '-' :: c :: cs => do
    let f ← forms.find? fun f => f.letter == some c
    return (f, match f.kind, cs with
      | .value, '=' :: v => some (String.ofList v)
      | .value, c :: v => some (String.ofList (c :: v))
      | _, _ => none)
  | _ => none

/-- Reads arguments in turn. What is left over begins with the name of another command. After
two minus signs all arguments are operands. -/
def readArguments (forms : List OptionForm) (kind : OperandKind) (g : Given) :
    List String → Except Halt (Given × List String)
  | [] => .ok (g, [])
  | a :: rest =>
    if a == "--" then do return (← g.addOperands kind rest, [])
    else if looksLikeOption a then
      match option? forms a.toList with
      | none => .error .misused
      | some (f, attached) => do
        let (g, taken) ← f.apply g attached rest.head?
        readArguments forms kind g (if taken then rest.tail else rest)
    else if kind = .command then .ok (g, a :: rest)
    else do readArguments forms kind (← g.addOperands kind [a]) rest
termination_by args => args.length
decreasing_by
  · have : rest.tail.length ≤ rest.length := by rw [List.length_tail]; omega
    simp only [List.length_cons]
    split <;> omega
  · simp

end TableTransfer.CommandLine
