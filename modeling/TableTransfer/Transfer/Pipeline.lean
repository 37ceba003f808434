import TableTransfer.Transfer.Sink
import TableTransfer.Transfer.Source

namespace TableTransfer

/-- How far a source or a sink has come; `σ` is what it works on. The connection is closed, then
the handle is given back, and last the end of the queue is dropped. -/
inductive Stage (σ : Type) where
  | waiting
  | refused (e : Error)
  | granted
  | working (s : σ)
  | worked (result : Except Error Nat)
  | closed (result : Except Error Nat)
  | released (result : Except Error Nat)
  | gone (result : Except Error Nat)

namespace Stage

variable {σ : Type}

def work? : Stage σ → Option σ
  | working s => some s
  | _ => none

theorem work?_eq_some_iff {stage : Stage σ} {s : σ} : stage.work? = some s ↔ stage = .working s := by
  cases stage <;> simp [work?]

end Stage

structure Party (σ : Type) where
  stage : Stage σ := .waiting
  connection : Connection

namespace Party

variable {σ : Type}

def isGone (p : Party σ) : Bool :=
  match p.stage with
  | .gone _ => true
  | _ => false

def close (p : Party σ) (result : Except Error Nat) (next : Except Error Nat → Stage σ) :
    Party σ :=
  let (closed, c) := p.connection.close
  ⟨next (outcomeOf result closed), c⟩

/-- A turn before or after the work, which starts with `enter`. -/
def advance (setup : DriverSetup) (enter : Connection → Except Error (σ × Connection))
    (r : Registry) (p : Party σ) : Party σ × Registry :=
  match p.stage with
  | .waiting =>
    match r.acquire setup.driver setup.fault with
    | (.ok _, r) => ({ p with stage := .granted }, r)
    | (.error e, r) => ({ p with stage := .refused e }, r)
  | .refused e => (p.close (.error e) .gone, r)
  | .granted =>
    match enter p.connection with
    | .ok (s, c) => (⟨.working s, c⟩, r)
    | .error e => ({ p with stage := .worked (.error e) }, r)
  | .worked result => (p.close result .closed, r)
  | .closed result => ({ p with stage := .released result }, r.release setup.driver.id)
  | .released result => ({ p with stage := .gone result }, r)
  | .working _ | .gone _ => (p, r)

end Party

/-- A source that reads: the batch that it fills, or one that is full and waits for room. -/
structure Reading where
  marshaller : Marshaller
  cursor : Cursor
  batch : Batch := []
  count : Nat := 0
  outgoing : Option Batch := none
  exhausted : Bool := false

namespace Reading

def fetch (r : Reading) (size : Nat) : Stage Reading :=
  match r.cursor.next with
  | (true, cursor) =>
    match r.marshaller.readRecord cursor with
    | .ok record =>
      let batch := r.batch ++ [record]
      if size ≤ batch.length then
        .working { r with cursor, batch := [], count := r.count + 1, outgoing := some batch }
      else .working { r with cursor, batch, count := r.count + 1 }
    | .error e => .worked (.error e)
  | (false, cursor) =>
    .working { r with
      cursor, batch := [], outgoing := if r.batch.isEmpty then none else some r.batch
      exhausted := true }

/-- Reads, or hands a batch on if there is room for it; else it waits. -/
def turn (r : Reading) (size capacity : Nat) (receiving : Bool) (queue : List Batch) :
    Stage Reading × List Batch :=
  match r.outgoing with
  | some batch =>
    if !receiving then (.worked (.error (.resource .receiverGone)), queue)
    else if queue.length < capacity then (.working { r with outgoing := none }, queue ++ [batch])
    else (.working r, queue)
  | none => (if r.exhausted then .worked (.ok r.count) else r.fetch size, queue)

end Reading

structure Writing where
  writer : Writer
  pending : List Record := []

namespace Writing

def party (w : Writing) : Party Writing := ⟨.working w, w.writer.connection⟩

/-- Writes a record, or takes the next batch; without one it waits or, if none can come, ends. -/
def turn (w : Writing) (sending : Bool) (queue : List Batch) : Party Writing × List Batch :=
  match w.pending, queue with
  | record :: pending, queue =>
    match w.writer.write record with
    | .ok writer => (party ⟨writer, pending⟩, queue)
    | .error e => (⟨.worked (.error e), w.writer.connection⟩, queue)
  | [], batch :: queue => (party ⟨w.writer, batch⟩, queue)
  | [], [] => (if sending then w.party else ⟨.worked (.ok w.writer.rows), w.writer.connection⟩, [])

end Writing

def Source.enter (s : Source) (c : Connection) : Except Error (Reading × Connection) := do
  let (marshaller, cursor) ← s.opened c
  return ({ marshaller, cursor }, c)

def Sink.enter (s : Sink) (c : Connection) : Except Error (Writing × Connection) := do
  let writer ← s.writer c
  return ({ writer }, writer.connection)

structure Pipeline where
  registry : Registry
  reader : Party Reading
  writer : Party Writing
  queue : List Batch := []

/-- Whose turn it is. Others may do with the registry whatever they like. -/
inductive Turn where
  | source
  | sink
  | others (r : Registry)

namespace Pipeline

def sending (p : Pipeline) : Bool := !p.reader.isGone

/-- A sink that works drops its end with the work, one that was refused at the very end. -/
def receiving (p : Pipeline) : Bool :=
  match p.writer.stage with
  | .waiting | .refused _ | .granted | .working _ => true
  | .worked _ | .closed _ | .released _ | .gone _ => false

def sourceTurn (s : Source) (capacity : Nat) (p : Pipeline) : Pipeline :=
  match p.reader.stage.work? with
  | some r =>
    let turned := r.turn s.size capacity p.receiving p.queue
    { p with reader := { p.reader with stage := turned.1 }, queue := turned.2 }
  | none =>
    let advanced := p.reader.advance s.setup s.enter p.registry
    { p with reader := advanced.1, registry := advanced.2 }

def sinkTurn (k : Sink) (p : Pipeline) : Pipeline :=
  match p.writer.stage.work? with
  | some w =>
    let turned := w.turn p.sending p.queue
    { p with writer := turned.1, queue := turned.2 }
  | none =>
    let advanced := p.writer.advance k.setup k.enter p.registry
    { p with writer := advanced.1, registry := advanced.2 }

def turn (s : Source) (k : Sink) (capacity : Nat) (p : Pipeline) : Turn → Pipeline
  | .source => p.sourceTurn s capacity
  | .sink => p.sinkTurn k
  | .others r => { p with registry := r }

def start (r : Registry) (c d : Connection) : Pipeline :=
  { registry := r, reader := { connection := c }, writer := { connection := d } }

def run (s : Source) (k : Sink) (capacity : Nat) (r : Registry) (c d : Connection)
    (turns : List Turn) : Pipeline :=
  turns.foldl (turn s k capacity) (start r c d)

end Pipeline

end TableTransfer
