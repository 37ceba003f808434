import TableTransfer.Proofs.Cursor.Read

namespace TableTransfer

inductive Wanted where
  | bool | int32 | int64 | binary32 | binary64 | string | bytes | decimal | date | time
  | timestamp | zonedTimestamp
deriving DecidableEq

namespace Wanted

def Result : Wanted → Type
  | bool => Bool
  | int32 => Int32
  | int64 => Int64
  | binary32 => Binary32
  | binary64 => Binary64
  | string => String
  | bytes => List UInt8
  | decimal => Decimal
  | date => Date
  | time => Time
  | timestamp => Timestamp
  | zonedTimestamp => OffsetTimestamp

def get : (w : Wanted) → Cursor → Nat → Except Error (Option w.Result)
  | bool => Cursor.bool
  | int32 => Cursor.int32
  | int64 => Cursor.int64
  | binary32 => Cursor.binary32
  | binary64 => Cursor.binary64
  | string => Cursor.string
  | bytes => Cursor.bytes
  | decimal => Cursor.decimal
  | date => Cursor.date
  | time => Cursor.time
  | timestamp => Cursor.timestamp
  | zonedTimestamp => Cursor.zonedTimestamp

def name : Wanted → String
  | bool => "bool"
  | int32 => "i32"
  | int64 => "i64"
  | binary32 => "f32"
  | binary64 => "f64"
  | string => "string"
  | bytes => "bytes"
  | decimal => "decimal"
  | date => "date"
  | time => "time"
  | timestamp => "timestamp"
  | zonedTimestamp => "timestamp with time zone"

def convert : (w : Wanted) → SqlValue → Option w.Result
  | bool => SqlValue.asBool?
  | int32 => SqlValue.asInt32?
  | int64 => SqlValue.asInt64?
  | binary32 => SqlValue.asBinary32?
  | binary64 => SqlValue.asBinary64?
  | string => SqlValue.asString?
  | bytes => SqlValue.asBytes?
  | decimal => SqlValue.asDecimal?
  | date => SqlValue.asDate?
  | time => SqlValue.asTime?
  | timestamp => SqlValue.asTimestamp?
  | zonedTimestamp => SqlValue.asZonedTimestamp?

theorem get_eq_read (w : Wanted) (cur : Cursor) (index : Nat) :
    w.get cur index = cur.read index w.name w.convert := by
  cases w <;> rfl

end Wanted

namespace Cursor

/-- Where a row has no cell. -/
def Outside (row : Row) (index : Nat) : Prop := index = 0 ∨ row.length < index

/-- What is read are the cells of this row, counted from one. A getter fails where the row has no
cell, and for a cell only if its value does not convert. -/
structure Reads (cur : Cursor) (row : Row) : Prop where
  value_eq {i : Nat} {p : SqlValue} : row[i]? = some p → cur.value (i + 1) = .ok p
  get_of_null (w : Wanted) {i : Nat} {p : SqlValue} : row[i]? = some p → p.isNull = true →
    w.get cur (i + 1) = .ok none
  get_of_converted (w : Wanted) {i : Nat} {p : SqlValue} {a : w.Result} : row[i]? = some p →
    p.isNull = false → w.convert p = some a → w.get cur (i + 1) = .ok (some a)
  get_of_unreadable (w : Wanted) {i : Nat} {p : SqlValue} : row[i]? = some p → p.isNull = false →
    w.convert p = none →
      w.get cur (i + 1) = .error (.conversion (cur.columnName (i + 1)) (.unreadable p.kind w.name))
  value_outside {index : Nat} : Outside row index →
    cur.value index = .error (.resource (.noColumn index row.length))
  get_outside (w : Wanted) {index : Nat} : Outside row index →
    w.get cur index = .error (.resource (.noColumn index row.length))

structure ReadsNothing (cur : Cursor) : Prop where
  value_eq (index : Nat) : cur.value index = .error (.resource .noRow)
  get_eq (w : Wanted) (index : Nat) : w.get cur index = .error (.resource .noRow)

section

variable {cur : Cursor} {row : Row}

theorem value_of_current? (h : cur.current? = some row) {i : Nat} {p : SqlValue}
    (hp : row[i]? = some p) : cur.value (i + 1) = .ok p := by
  rw [value, h]
  simp only [cell?, hp]

theorem value_of_outside (h : cur.current? = some row) {index : Nat} (hout : Outside row index) :
    cur.value index = .error (.resource (.noColumn index row.length)) := by
  have hnone : cell? row index = none := by
    cases index with
    | zero => rfl
    | succ i => exact List.getElem?_eq_none (by simpa [Outside, Nat.lt_succ_iff] using hout)
  rw [value, h]
  simp only [hnone]

theorem reads_of_current? (h : cur.current? = some row) : cur.Reads row where
  value_eq := value_of_current? h
  get_of_null w _ _ hp hnull := by
    rw [w.get_eq_read, read_of_null (value_of_current? h hp) hnull]
  get_of_converted w _ _ _ hp hnull ha := by
    rw [w.get_eq_read, read_of_value (value_of_current? h hp) hnull ha]
  get_of_unreadable w _ _ hp hnull hnone := by
    rw [w.get_eq_read, read_of_unreadable _ _ (value_of_current? h hp) hnull hnone]
  value_outside := value_of_outside h
  get_outside w _ hout := by
    rw [w.get_eq_read, read_of_error (value_of_outside h hout)]

theorem readsNothing_of_current? (h : cur.current? = none) : cur.ReadsNothing := by
  have hvalue : ∀ index, cur.value index = .error (.resource .noRow) := by
    intro index
    rw [value, h]
  refine ⟨hvalue, fun w index => ?_⟩
  rw [w.get_eq_read, read_of_error (hvalue index)]

end

def after (cur : Cursor) : Nat → Cursor
  | 0 => cur
  | k + 1 => (cur.after k).next.2

section

variable {columns : List Column} {rows : List Row}

theorem after_succ (k : Nat) :
    after { columns, rows } (k + 1) = { columns, rows, position := some (min k rows.length) } := by
  induction k with
  | zero => rfl
  | succ k ih =>
      rw [after, ih, next]
      have hmin : min (min k rows.length + 1) rows.length = min (k + 1) rows.length := by omega
      simp only [hmin]

theorem current?_after (k : Nat) : (after { columns, rows } (k + 1)).current? = rows[k]? := by
  rw [after_succ, current?, Option.bind_some]
  rcases Nat.lt_or_ge k rows.length with hlt | hge
  · rw [Nat.min_eq_left (Nat.le_of_lt hlt)]
  · rw [Nat.min_eq_right hge, List.getElem?_eq_none (Nat.le_refl _), List.getElem?_eq_none hge]

theorem next_after (k : Nat) : (after { columns, rows } k).next.1 = decide (k < rows.length) := by
  cases k with
  | zero => rfl
  | succ k =>
      rw [after_succ]
      change decide (min k rows.length + 1 < rows.length) = _
      exact decide_eq_decide.2 (by omega)

end

/-- As many moves of a new cursor come to a row as there are rows, and after each of them every getter
reads that row. Before the first move, and however often the cursor is moved on after the last row,
every getter says that there is none. A cursor on a single row is a new one that was moved on once. -/
theorem next_visits_rows (columns : List Column) (rows : List Row) :
    (∀ k, (after { columns, rows } k).next.1 = true ↔ k + 1 ≤ rows.length) ∧
      (∀ k row, rows[k]? = some row → (after { columns, rows } (k + 1)).Reads row) ∧
      (∀ k, k = 0 ∨ rows.length < k → (after { columns, rows } k).ReadsNothing) ∧
      ∀ row, single columns row = after { columns, rows := [row] } 1 := by
  refine ⟨fun k => ?_, fun k row hrow => ?_, fun k hk => ?_, fun row => rfl⟩
  · rw [next_after, decide_eq_true_iff]
    exact Iff.rfl
  · exact reads_of_current? ((current?_after k).trans hrow)
  · apply readsNothing_of_current?
    cases k with
    | zero => rfl
    | succ k => exact (current?_after k).trans (List.getElem?_eq_none (by omega))

def flagRows : List Row := [[.i16 0, .text "no"], [.i16 1, .text "yes"]]

theorem next_visits_rows_flags :
    (after { columns := [], rows := flagRows } 1).next.1 = true ∧
      flagRows[1]? = some [.i16 1, .text "yes"] ∧
      Wanted.bool.get (after { columns := [], rows := flagRows } 2) 1 = .ok (some true) ∧
      flagRows.length < 5 ∧
      Wanted.bool.get (after { columns := [], rows := flagRows } 5) 1 =
        .error (.resource .noRow) := by
  obtain ⟨hnext, hreads, hnothing, -⟩ := next_visits_rows [] flagRows
  have hrow : flagRows[1]? = some [.i16 1, .text "yes"] := rfl
  have hend : flagRows.length < 5 := by decide
  exact ⟨(hnext 1).2 (by decide), hrow, (hreads 1 _ hrow).get_of_converted .bool rfl rfl rfl, hend,
    (hnothing 5 (.inr hend)).get_eq .bool 1⟩

end Cursor

end TableTransfer
