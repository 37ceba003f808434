import TableTransfer.Dialect.Basic
import TableTransfer.Marshaller
import TableTransfer.Transfer.Report
import TableTransfer.Validation

namespace TableTransfer

def insertStatement (v : Vendor) (qualified : String) (fields : List Field) :
    Except Error String := do
  if fields.isEmpty then throw (.config (.noFields qualified))
  let columns ← fields.mapM fun f => v.escapeChecked f.name
  return "INSERT INTO " ++ qualified ++ " (" ++ ", ".intercalate columns ++ ") VALUES (" ++
    ", ".intercalate (fields.map fun _ => "?") ++ ")"

/-- A table and the records that are written into it. An empty schema name stands for the
usual schema of the connection. -/
structure Sink where
  vendor : Vendor
  setup : DriverSetup
  schemaName : String
  table : String
  fields : List Field

structure Writer where
  marshaller : Marshaller
  statement : Statement
  connection : Connection
  rows : Nat := 0

namespace Writer

def write (w : Writer) (r : Record) : Except Error Writer :=
  match (w.marshaller.writeRecord r).runOn w.statement with
  | (.ok _, s) =>
    .ok { w with
      statement := s.clear, connection := w.connection.write s.executed, rows := w.rows + 1 }
  | (.error e, _) => .error e

def writeAll (w : Writer) : List Record → Work
  | [] => { result := .ok w.rows, connection := w.connection }
  | r :: records =>
    match w.write r with
    | .ok w => w.writeAll records
    | .error e => { result := .error e, connection := w.connection }

end Writer

namespace Sink

def writer (s : Sink) (c : Connection) : Except Error Writer := do
  let qualified ← s.vendor.qualify s.schemaName s.table
  let columns ← c.tableColumns qualified
  Schema.check s.vendor .sink s.fields columns
  let marshaller ← Marshaller.forSink s.vendor s.fields columns
  let sql ← insertStatement s.vendor qualified s.fields
  let (statement, c) ← c.prepare sql
  return { marshaller, statement, connection := c }

def work (s : Sink) (c : Connection) (received : List Batch) : Work :=
  match s.writer c with
  | .ok w => w.writeAll received.flatten
  | .error e => { result := .error e, connection := c }

def run (s : Sink) (r : Registry) (c : Connection) (received : List Batch) : Report :=
  Report.ofRun s.setup r c fun c => s.work c received

end Sink

end TableTransfer
