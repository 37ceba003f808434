import TableTransfer.Marshaller
import TableTransfer.Transfer.Report
import TableTransfer.Validation

namespace TableTransfer

/-- What a source sends, in order, and how it ends if all of it can be sent. -/
structure Delivery where
  batches : List Batch
  result : Except Error Nat

namespace Delivery

/-- The batches that reach a receiver, and the result. The first batch that finds the receiver
gone ends the delivery. -/
def send (d : Delivery) (receiving : Bool) : List Batch × Except Error Nat :=
  if receiving || d.batches.isEmpty then (d.batches, d.result)
  else ([], .error (.resource .receiverGone))

def fault (e : Error) : Delivery := ⟨[], .error e⟩

/-- Batches of `size` records up to the first row that cannot be read, and one with the rest if
there is none. `batch` is begun already and `count` rows were read. -/
def ofRows (size : Nat) (batch : Batch) (count : Nat) : List (Except Error Record) → Delivery
  | [] => ⟨if batch.isEmpty then [] else [batch], .ok count⟩
  | .error e :: _ => fault e
  | .ok r :: rows =>
    let batch := batch ++ [r]
    if size ≤ batch.length then
      let rest := ofRows size [] (count + 1) rows
      ⟨batch :: rest.batches, rest.result⟩
    else ofRows size batch (count + 1) rows

end Delivery

structure Source where
  vendor : Vendor
  setup : DriverSetup
  query : String
  declared : Option (List Field) := none
  batchSize : Nat := 1000

namespace Source

/-- The declared fields if the columns are fit for them; without a declaration those that the
columns give. -/
def fields (s : Source) (cs : List Column) : Except Error (List Field) :=
  match s.declared with
  | some fields => do
    Schema.check s.vendor .source fields cs
    return fields
  | none => Column.inferAll s.vendor cs

def records (m : Marshaller) (cur : Cursor) : List (Except Error Record) :=
  cur.onRows.map m.readRecord

def opened (s : Source) (c : Connection) : Except Error (Marshaller × Cursor) := do
  let cur ← c.query s.query
  let fields ← s.fields cur.columns
  return (← Marshaller.forSource s.vendor fields cur.columns, cur)

def size (s : Source) : Nat := max s.batchSize 1

def delivery (s : Source) (c : Connection) : Delivery :=
  match s.opened c with
  | .ok (m, cur) => Delivery.ofRows s.size [] 0 (records m cur)
  | .error e => .fault e

def run (s : Source) (r : Registry) (c : Connection) (receiving : Bool) : Report :=
  Report.ofRun s.setup r c fun c =>
    let (sent, result) := (s.delivery c).send receiving
    { result, connection := c, sent }

end Source

end TableTransfer
