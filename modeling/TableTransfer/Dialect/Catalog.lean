import TableTransfer.Dialect.Basic

namespace TableTransfer

/-- The latest entry of a name stands first. -/
structure Catalog where
  profiles : List (String × Profile) := []
  aliases : List (String × String) := []

namespace Catalog

def register (c : Catalog) (p : Profile) (aliases : List String) : Catalog :=
  let key := Text.lower p.id
  { profiles := (key, p) :: c.profiles
    aliases := (aliases.map fun a => (Text.lower a, key)).reverse ++ c.aliases }

def normalize? (c : Catalog) (name : String) : Option String :=
  let key := Text.lower (Text.trimmed name)
  if (c.profiles.lookup key).isSome then some key else c.aliases.lookup key

def get? (c : Catalog) (name : String) : Option Profile :=
  (c.normalize? name).bind fun key => c.profiles.lookup key

def contains (c : Catalog) (name : String) : Bool := (c.normalize? name).isSome

def names (c : Catalog) : List String :=
  ((c.profiles.map Prod.fst).eraseDups).mergeSort fun a b => a ≤ b

def require (c : Catalog) (name : String) : Except Error Profile :=
  match c.get? name with
  | some p => .ok p
  | none => .error (.config (.unknownDialect name c.names))

def empty : Catalog := {}

def builtin : Catalog :=
  ((((((empty.register Vendor.generic.profile []).register Vendor.mysql.profile ["mariadb"]).register
    Vendor.postgres.profile ["postgresql", "pg"]).register Vendor.oracle.profile []).register
    Vendor.sqlServer.profile ["mssql", "sql_server"]).register Vendor.db2.profile [])

end Catalog

end TableTransfer
