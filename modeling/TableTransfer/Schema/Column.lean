import TableTransfer.Schema.TypeCode
import TableTransfer.Text.Basic

namespace TableTransfer

structure Column where
  name : String
  code : TypeCode
  typeName : String
  precision : Int := 0
  scale : Int := 0
  signed : Bool := true
  nullable : Bool := true
deriving DecidableEq

/-- A column as readers and writers see it: no width, no sign and no nullability. The ordinal
counts from one. -/
structure ColumnType where
  name : String
  typeName : String
  code : TypeCode
  ordinal : Nat
deriving DecidableEq

namespace Column

def typeNameIs (c : Column) (name : String) : Bool := Text.sameLetters c.typeName name

def columnType (c : Column) (ordinal : Nat) : ColumnType :=
  ⟨c.name, c.typeName, c.code, ordinal⟩

def columnTypes (cs : List Column) : List ColumnType :=
  cs.mapIdx fun i c => c.columnType (i + 1)

end Column

def ColumnType.typeNameIs (c : ColumnType) (name : String) : Bool :=
  Text.sameLetters c.typeName name

end TableTransfer
