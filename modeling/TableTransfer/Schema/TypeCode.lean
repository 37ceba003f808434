import TableTransfer.Text.Number

namespace TableTransfer

inductive StandardType where
  | bit | tinyInt | smallInt | integer | bigInt | float | real | double | numeric | decimal
  | char | varchar | longVarchar | date | time | timestamp
  | binary | varbinary | longVarbinary | null | other | javaObject | distinct | struct | array
  | blob | clob | ref | datalink | boolean | rowId | nchar | nvarchar | longNvarchar | nclob
  | sqlXml | timeWithTimeZone | timestampWithTimeZone
deriving DecidableEq

structure TypeCode where
  value : Int
deriving DecidableEq

namespace StandardType

def code : StandardType → TypeCode
  | bit => ⟨-7⟩ | tinyInt => ⟨-6⟩ | smallInt => ⟨5⟩ | integer => ⟨4⟩ | bigInt => ⟨-5⟩
  | float => ⟨6⟩ | real => ⟨7⟩ | double => ⟨8⟩ | numeric => ⟨2⟩ | decimal => ⟨3⟩
  | char => ⟨1⟩ | varchar => ⟨12⟩ | longVarchar => ⟨-1⟩
  | date => ⟨91⟩ | time => ⟨92⟩ | timestamp => ⟨93⟩
  | binary => ⟨-2⟩ | varbinary => ⟨-3⟩ | longVarbinary => ⟨-4⟩
  | null => ⟨0⟩ | other => ⟨1111⟩ | javaObject => ⟨2000⟩ | distinct => ⟨2001⟩
  | struct => ⟨2002⟩ | array => ⟨2003⟩ | blob => ⟨2004⟩ | clob => ⟨2005⟩ | ref => ⟨2006⟩
  | datalink => ⟨70⟩ | boolean => ⟨16⟩ | rowId => ⟨-8⟩
  | nchar => ⟨-15⟩ | nvarchar => ⟨-9⟩ | longNvarchar => ⟨-16⟩ | nclob => ⟨2011⟩
  | sqlXml => ⟨2009⟩ | timeWithTimeZone => ⟨2013⟩ | timestampWithTimeZone => ⟨2014⟩

def name : StandardType → String
  | bit => "BIT" | tinyInt => "TINYINT" | smallInt => "SMALLINT" | integer => "INTEGER"
  | bigInt => "BIGINT" | float => "FLOAT" | real => "REAL" | double => "DOUBLE"
  | numeric => "NUMERIC" | decimal => "DECIMAL" | char => "CHAR" | varchar => "VARCHAR"
  | longVarchar => "LONGVARCHAR" | date => "DATE" | time => "TIME" | timestamp => "TIMESTAMP"
  | binary => "BINARY" | varbinary => "VARBINARY" | longVarbinary => "LONGVARBINARY"
  | null => "NULL" | other => "OTHER" | javaObject => "JAVA_OBJECT" | distinct => "DISTINCT"
  | struct => "STRUCT" | array => "ARRAY" | blob => "BLOB" | clob => "CLOB" | ref => "REF"
  | datalink => "DATALINK" | boolean => "BOOLEAN" | rowId => "ROWID" | nchar => "NCHAR"
  | nvarchar => "NVARCHAR" | longNvarchar => "LONGNVARCHAR" | nclob => "NCLOB"
  | sqlXml => "SQLXML" | timeWithTimeZone => "TIME_WITH_TIMEZONE"
  | timestampWithTimeZone => "TIMESTAMP_WITH_TIMEZONE"

end StandardType

/-- Standard types that are stored, read and written in one way. -/
inductive Family where
  | boolean | tinyInt | smallInt | integer | bigInt | real | float | double | numeric
  | text | binary | date | time | timestamp | zonedTimestamp
deriving DecidableEq

def StandardType.family? : StandardType → Option Family
  | bit | boolean => some .boolean
  | tinyInt => some .tinyInt
  | smallInt => some .smallInt
  | integer => some .integer
  | bigInt => some .bigInt
  | real => some .real
  | float => some .float
  | double => some .double
  | numeric | decimal => some .numeric
  | char | varchar | longVarchar | clob | nchar | nvarchar | longNvarchar | nclob => some .text
  | binary | varbinary | longVarbinary | blob => some .binary
  | date => some .date
  | time => some .time
  | timestamp => some .timestamp
  | timestampWithTimeZone => some .zonedTimestamp
  | null | other | javaObject | distinct | struct | array | ref | datalink | rowId | sqlXml
  | timeWithTimeZone => none

namespace TypeCode

def standard? (c : TypeCode) : Option StandardType :=
  match c.value with
  | -16 => some .longNvarchar | -15 => some .nchar | -9 => some .nvarchar | -8 => some .rowId
  | -7 => some .bit | -6 => some .tinyInt | -5 => some .bigInt | -4 => some .longVarbinary
  | -3 => some .varbinary | -2 => some .binary | -1 => some .longVarchar | 0 => some .null
  | 1 => some .char | 2 => some .numeric | 3 => some .decimal | 4 => some .integer
  | 5 => some .smallInt | 6 => some .float | 7 => some .real | 8 => some .double
  | 12 => some .varchar | 16 => some .boolean | 70 => some .datalink | 91 => some .date
  | 92 => some .time | 93 => some .timestamp | 1111 => some .other | 2000 => some .javaObject
  | 2001 => some .distinct | 2002 => some .struct | 2003 => some .array | 2004 => some .blob
  | 2005 => some .clob | 2006 => some .ref | 2009 => some .sqlXml | 2011 => some .nclob
  | 2013 => some .timeWithTimeZone | 2014 => some .timestampWithTimeZone
  | _ => none

def is (c : TypeCode) (t : StandardType) : Bool := c == t.code

def family? (c : TypeCode) : Option Family := c.standard?.bind StandardType.family?

def isText (c : TypeCode) : Bool := c.family? == some .text

def isBinary (c : TypeCode) : Bool := c.family? == some .binary

def text (c : TypeCode) : String :=
  match c.standard? with
  | some t => t.name
  | none => Text.intText c.value

theorem standard?_code (t : StandardType) : t.code.standard? = some t := by cases t <;> rfl

theorem standard?_eq_some_iff {c : TypeCode} {t : StandardType} :
    c.standard? = some t ↔ c = t.code := by
  constructor
  · obtain ⟨v⟩ := c
    intro h
    simp only [standard?] at h
    split at h <;> first
      | (obtain rfl := Option.some.inj h; rfl)
      | exact absurd h (by simp)
  · rintro rfl
    exact standard?_code t

theorem is_iff {c : TypeCode} {t : StandardType} : c.is t = true ↔ c.standard? = some t := by
  rw [is, beq_iff_eq, standard?_eq_some_iff]

theorem is_eq_decide (c : TypeCode) (t : StandardType) :
    c.is t = decide (c.standard? = some t) := by
  rw [Bool.eq_iff_iff, is_iff, decide_eq_true_iff]

end TypeCode

end TableTransfer
