import TableTransfer.Memory.Connection
import TableTransfer.Registry
import TableTransfer.Value.Basic

namespace TableTransfer

abbrev Batch := List Record

structure DriverSetup where
  driver : Driver
  fault : Option Error := none

/-- What work with a connection comes to: the number of rows or a fault, the connection after
it, and the batches sent on the way. -/
structure Work where
  result : Except Error Nat
  connection : Connection
  sent : List Batch := []

structure Report where
  result : Except Error Nat
  connection : Connection
  registry : Registry
  sent : List Batch

/-- The fault of the work counts before the one of closing. -/
def outcomeOf (work : Except Error Nat) (closed : Except Error Unit) : Except Error Nat :=
  match work, closed with
  | .ok rows, .ok _ => .ok rows
  | .ok _, .error e => .error e
  | .error e, _ => .error e

namespace Report

def ofWork (w : Work) (r : Registry) : Report :=
  let (closed, c) := w.connection.close
  { result := outcomeOf w.result closed, connection := c, registry := r, sent := w.sent }

/-- Registers the driver, works, closes the connection and gives the handle back. -/
def ofRun (s : DriverSetup) (r : Registry) (c : Connection) (work : Connection → Work) : Report :=
  match r.acquire s.driver s.fault with
  | (.ok _, r) => ofWork (work c) (r.release s.driver.id)
  | (.error e, r) => ofWork { result := .error e, connection := c } r

end Report

end TableTransfer
