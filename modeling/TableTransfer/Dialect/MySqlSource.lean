import TableTransfer.Dialect.MySql

namespace TableTransfer.MySql

def codeOf (typeName : String) : TypeCode :=
  StandardType.code <|
    match baseName typeName with
    | "TINYINT" | "BOOLEAN" | "BOOL" => .tinyInt
    | "SMALLINT" => .smallInt
    | "MEDIUMINT" | "INT" | "INTEGER" => .integer
    | "BIGINT" => .bigInt
    | "FLOAT" => .real
    | "DOUBLE" | "REAL" => .double
    | "DECIMAL" | "NUMERIC" => .decimal
    | "BIT" => .bit
    | "CHAR" | "ENUM" | "SET" => .char
    | "VARCHAR" => .varchar
    | "TINYTEXT" | "TEXT" | "MEDIUMTEXT" | "LONGTEXT" | "JSON" => .longVarchar
    | "BINARY" => .binary
    | "VARBINARY" => .varbinary
    | "TINYBLOB" | "BLOB" | "MEDIUMBLOB" | "LONGBLOB" | "GEOMETRY" => .longVarbinary
    | "DATE" | "YEAR" => .date
    | "TIME" => .time
    | "DATETIME" | "TIMESTAMP" => .timestamp
    | _ => .other

/-- A boolean is a tiny integer of one digit. -/
def columnOf (name typeName : String) (nullable : Bool) : Column :=
  let upper := Text.upper typeName
  let signed := !isUnsignedName typeName
  if upper = "BOOLEAN" then
    { name, code := StandardType.tinyInt.code, typeName := "TINYINT", precision := 1, signed
      nullable }
  else { name, code := codeOf typeName, typeName := upper, signed, nullable }

end TableTransfer.MySql
