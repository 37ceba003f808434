import TableTransfer.Decimal.Rescale
import TableTransfer.Memory.Cursor
import TableTransfer.Param
import TableTransfer.Schema.Column
import TableTransfer.Schema.Type
import TableTransfer.Value.Basic
import TableTransfer.Value.Temporal

namespace TableTransfer

def Value.ofRead {α : Type} (make : α → Value) (r : Except Error (Option α)) :
    Except Error Value :=
  r.map fun o => (o.map make).getD .null

def Shape.timeUnit (s : Shape) : TimeUnit := if s.countsMicros then .micros else .millis

namespace Cursor

def timestampAs (c : Cursor) (s : Shape) (index : Nat) : Except Error Value :=
  Value.ofRead (Value.ofTimestamp s.timeUnit) (c.timestamp index)

def roundedDecimal (c : Cursor) (scale index : Nat) : Except Error Value :=
  Value.ofRead (fun d => .decimal (d.rescaleHalfEven scale)) (c.decimal index)

end Cursor

namespace ColumnType

variable {σ : Type} [ParamTarget σ]

def bind (c : ColumnType) (v : SqlValue) : ParamM σ Unit := ParamTarget.bind ⟨c.ordinal, v⟩

def bindObject (c : ColumnType) (text : String) : ParamM σ Unit := c.bind (.object c.typeName text)

end ColumnType

end TableTransfer
