import TableTransfer.Dialect.Db2
import TableTransfer.Dialect.MySql
import TableTransfer.Dialect.Oracle
import TableTransfer.Dialect.Postgres
import TableTransfer.Dialect.SqlServer

namespace TableTransfer

inductive Vendor where
  | generic | mysql | postgres | oracle | sqlServer | db2
deriving DecidableEq

namespace Vendor

def all : List Vendor := [generic, mysql, postgres, oracle, sqlServer, db2]

def name : Vendor → String
  | generic => "generic" | mysql => "mysql" | postgres => "postgres" | oracle => "oracle"
  | sqlServer => "sqlserver" | db2 => "db2"

def quotes : Vendor → Quotes
  | mysql => ⟨'\x60', '\x60'⟩
  | sqlServer => ⟨'[', ']'⟩
  | generic | postgres | oracle | db2 => ⟨'\"', '\"'⟩

/-- The shape of a column where the dialect has a rule of its own. -/
def type? (v : Vendor) (c : Column) : Option Shape :=
  match v with
  | generic => none
  | mysql => MySql.type? c
  | postgres => Postgres.type? c
  | oracle => Oracle.type? c
  | sqlServer => SqlServer.type? c
  | db2 => Db2.type? c

def accepts? (v : Vendor) (t : UniversalType) (c : Column) : Option Bool :=
  match v with
  | generic => none
  | mysql => MySql.accepts? t c
  | postgres => Postgres.accepts? t c
  | oracle => Oracle.accepts? t c
  | sqlServer => SqlServer.accepts? t c
  | db2 => Db2.accepts? t c

def read? (v : Vendor) (cur : Cursor) (s : Shape) (c : ColumnType) :
    Option (Except Error Value) :=
  match v with
  | generic => none
  | mysql => MySql.read? cur s c
  | postgres => Postgres.read? cur s c
  | oracle => Oracle.read? cur s c
  | sqlServer => SqlServer.read? cur s c
  | db2 => Db2.read? cur s c

def write? {σ : Type} [ParamTarget σ] (v : Vendor) (field : String) (c : ColumnType)
    (value : Value) : Option (ParamM σ Unit) :=
  match v with
  | generic => none
  | mysql => MySql.write? field c value
  | postgres => Postgres.write? field c value
  | oracle => Oracle.write? field c value
  | sqlServer => SqlServer.write? field c value
  | db2 => Db2.write? c value

def escape (v : Vendor) (name : String) : String := String.ofList (v.quotes.escape name.toList)

def escapeChecked (v : Vendor) (name : String) : Except Error String :=
  match Identifier.fault? name with
  | some fault => .error (.config (.identifier fault))
  | none => .ok (v.escape name)

def qualify (v : Vendor) (schema table : String) : Except Error String := do
  let table ← v.escapeChecked table
  if schema = "" then return table
  return (← v.escapeChecked schema) ++ "." ++ table

end Vendor

structure Profile where
  id : String
  vendor : Vendor
deriving DecidableEq

def Profile.described (p : Profile) : String :=
  "DialectProfile \x7b id: " ++ Text.quoted p.id ++ " \x7d"

def Vendor.profile (v : Vendor) : Profile := ⟨v.name, v⟩

end TableTransfer
