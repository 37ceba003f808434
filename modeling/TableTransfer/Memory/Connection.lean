import TableTransfer.Memory.Cursor
import TableTransfer.Memory.Statement

namespace TableTransfer

structure ResultSet where
  columns : List Column
  rows : List Row

structure Connection where
  results : List (String × ResultSet) := []
  defaultResult : Option ResultSet := none
  tables : List (String × List Column) := []
  prepared : List String := []
  written : List (List Param) := []
  closings : Nat := 0
  /-- What closing reports, although it closes. -/
  closeFault : Option ResourceFault := none

namespace Connection

def isClosed (c : Connection) : Bool := c.closings != 0

def whileOpen {α : Type} (c : Connection) (work : Except Error α) : Except Error α :=
  if c.isClosed then .error (.resource .connectionClosed) else work

/-- Of two results for one query the later one counts. -/
def query (c : Connection) (sql : String) : Except Error Cursor :=
  c.whileOpen <|
    match ((c.results.reverse.lookup sql).or c.defaultResult) with
    | some r => .ok { columns := r.columns, rows := r.rows }
    | none => .error (.resource (.noResult sql))

def tableColumns (c : Connection) (table : String) : Except Error (List Column) :=
  c.whileOpen <|
    match c.tables.reverse.lookup table with
    | some columns => .ok columns
    | none => .error (.resource (.noTable table))

def prepare (c : Connection) (sql : String) : Except Error (Statement × Connection) :=
  c.whileOpen (.ok ({ sql }, { c with prepared := c.prepared ++ [sql] }))

def write (c : Connection) (row : List Param) : Connection :=
  { c with written := c.written ++ [row] }

def close (c : Connection) : Except Error Unit × Connection :=
  (match c.closeFault with
    | some fault => .error (.resource fault)
    | none => .ok (),
   { c with closings := c.closings + 1 })

end Connection

end TableTransfer
