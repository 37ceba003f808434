import TableTransfer.FieldReader

namespace TableTransfer

structure Cursor.SameCell (cur : Cursor) (i : Nat) (cur' : Cursor) (j : Nat) : Prop where
  value_eq : cur.value i = cur'.value j
  columnName_eq : cur.columnName i = cur'.columnName j

namespace Cursor.SameCell

variable {cur cur' : Cursor} {i j : Nat}

theorem read_eq {α : Type} (h : cur.SameCell i cur' j) (wanted : String)
    (convert : SqlValue → Option α) : cur.read i wanted convert = cur'.read j wanted convert := by
  rw [read, read, h.value_eq, h.columnName_eq]

theorem readFamily_eq (h : cur.SameCell i cur' j) (family : Family) (f : Field) :
    family.read cur f i = family.read cur' f j := by
  cases family <;>
    simp only [Family.read, timestampAs, bool, int32, int64, binary32, binary64, string, bytes,
      decimal, date, time, timestamp, zonedTimestamp, h.read_eq]

theorem read?_eq (h : cur.SameCell i cur' j) (vendor : Vendor) (s : Shape) (c : Column) :
    vendor.read? cur s (c.columnType i) = vendor.read? cur' s (c.columnType j) := by
  cases vendor with
  | generic => rfl
  | mysql =>
      simp only [Vendor.read?, MySql.read?, MySql.read?.year?, Column.columnType, int32, bytes,
        decimal, h.read_eq]
      rfl
  | postgres =>
      simp only [Vendor.read?, Postgres.read?, Column.columnType, roundedDecimal, string, decimal,
        h.read_eq]
      rfl
  | oracle =>
      simp only [Vendor.read?, Oracle.read?, Column.columnType, timestampAs, roundedDecimal, bytes,
        string, binary32, binary64, decimal, timestamp, h.read_eq]
      rfl
  | sqlServer =>
      simp only [Vendor.read?, SqlServer.read?, Column.columnType, zonedTimestamp, string,
        h.read_eq]
      rfl
  | db2 =>
      simp only [Vendor.read?, Db2.read?, Column.columnType, binary64, string, h.read_eq]
      rfl

theorem readField_eq (h : cur.SameCell i cur' j) (vendor : Vendor) (f : Field) (c : Column) :
    f.read vendor cur (c.columnType i) = f.read vendor cur' (c.columnType j) := by
  have hgeneric : f.readGeneric cur (c.columnType i) = f.readGeneric cur' (c.columnType j) := by
    simp only [Field.readGeneric, Column.columnType, h.readFamily_eq]
  rw [Field.read, Field.read, h.read?_eq, hgeneric]
  rfl

end Cursor.SameCell

end TableTransfer
