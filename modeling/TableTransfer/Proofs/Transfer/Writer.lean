import TableTransfer.Proofs.Marshaller.Atomic
import TableTransfer.Transfer.Sink

namespace TableTransfer

/-- The row that a record is captured as. -/
def Marshaller.row (m : Marshaller) (r : Record) : Except Error (List Param) :=
  (m.stage r).map fun ps => Statement.executed { params := ps }

namespace Writer

structure Ready (w : Writer) : Prop where
  sound : ∃ vendor fields, w.marshaller.Sound vendor fields
  params_eq : w.statement.params = []

def wrote (w : Writer) (rows : List (List Param)) : Writer :=
  { w with
    connection := { w.connection with written := w.connection.written ++ rows }
    rows := w.rows + rows.length }

theorem wrote_nil (w : Writer) : w.wrote [] = w := by
  simp [wrote]

theorem wrote_append (w : Writer) (rows more : List (List Param)) :
    w.wrote (rows ++ more) = (w.wrote rows).wrote more := by
  simp [wrote, Nat.add_assoc]

theorem Ready.wrote {w : Writer} (h : w.Ready) (rows : List (List Param)) :
    (w.wrote rows).Ready := ⟨h.sound, h.params_eq⟩

theorem Ready.write_eq {w : Writer} (h : w.Ready) (r : Record) :
    w.write r = (w.marshaller.row r).map fun row => w.wrote [row] := by
  obtain ⟨⟨vendor, fields, hsound⟩, hparams⟩ := h
  obtain ⟨m, ⟨sql, params⟩, connection, count⟩ := w
  obtain rfl : params = [] := hparams
  rw [write, Marshaller.row]
  cases hstage : m.stage r with
  | error e =>
      rw [Marshaller.writeRecord_of_stage_error hstage]
      rfl
  | ok ps =>
      rw [hsound.writeRecord_of_stage hstage]
      rfl

theorem Ready.write_of_row {w : Writer} (h : w.Ready) {r : Record} {row : List Param}
    (hrow : w.marshaller.row r = .ok row) : w.write r = .ok (w.wrote [row]) := by
  rw [h.write_eq, hrow]
  rfl

theorem Ready.write_of_row_error {w : Writer} (h : w.Ready) {r : Record} {e : Error}
    (hrow : w.marshaller.row r = .error e) : w.write r = .error e := by
  rw [h.write_eq, hrow]
  rfl

section

variable {w : Writer} {taken rest : List Record} {rows : List (List Param)}

theorem Ready.writeAll_append (h : w.Ready) (hrows : taken.map w.marshaller.row = rows.map .ok) :
    w.writeAll (taken ++ rest) = (w.wrote rows).writeAll rest := by
  induction taken generalizing w rows with
  | nil =>
      obtain rfl : rows = [] := by simpa using hrows.symm
      rw [wrote_nil]
      rfl
  | cons r taken ih =>
      cases rows with
      | nil => cases hrows
      | cons row rows =>
          rw [List.map_cons, List.map_cons, List.cons.injEq] at hrows
          rw [List.cons_append, writeAll, h.write_of_row hrows.1]
          dsimp only
          rw [ih (h.wrote [row]) hrows.2, ← wrote_append]
          rfl

theorem Ready.writeAll_of_rows (h : w.Ready) (hrows : taken.map w.marshaller.row = rows.map .ok) :
    w.writeAll taken =
      { result := .ok (w.wrote rows).rows, connection := (w.wrote rows).connection } := by
  rw [← List.append_nil taken, h.writeAll_append hrows]
  rfl

/-- The rows that are captured are those of the first records; if all records are written they
are those of all records. -/
theorem Ready.writeAll_captures (h : w.Ready) (records : List Record) :
    ∃ rows, (w.writeAll records).connection = (w.wrote rows).connection ∧
      rows.map .ok <+: records.map w.marshaller.row ∧
      ∀ n, (w.writeAll records).result = .ok n →
        rows.map .ok = records.map w.marshaller.row ∧ n = w.rows + rows.length := by
  induction records generalizing w with
  | nil =>
      refine ⟨[], by rw [wrote_nil]; rfl, List.prefix_rfl, fun n hn => ⟨rfl, ?_⟩⟩
      exact (Except.ok.inj hn).symm
  | cons r records ih =>
      rw [writeAll]
      cases hrow : w.marshaller.row r with
      | error e =>
          rw [h.write_of_row_error hrow]
          refine ⟨[], by rw [wrote_nil], List.nil_prefix, fun n hn => ?_⟩
          cases hn
      | ok row =>
          rw [h.write_of_row hrow]
          obtain ⟨rows, hconnection, hprefix, hall⟩ := ih (h.wrote [row])
          refine ⟨row :: rows, ?_, ?_, fun n hn => ?_⟩
          · rw [hconnection, ← wrote_append]
            rfl
          · rw [List.map_cons, List.map_cons, hrow]
            exact List.cons_prefix_cons.2 ⟨rfl, hprefix⟩
          · obtain ⟨hrows, hn⟩ := hall n hn
            rw [List.map_cons, List.map_cons, hrow]
            refine ⟨congrArg _ hrows, ?_⟩
            rw [hn, List.length_cons]
            change w.rows + 1 + rows.length = _
            omega

end

end Writer

namespace Sink

variable {k : Sink} {d : Connection} {w : Writer}

theorem writer_eq_ok (h : k.writer d = .ok w) :
    w.Ready ∧ w.rows = 0 ∧ w.connection.written = d.written ∧
      w.connection.closeFault = d.closeFault := by
  simp only [writer] at h
  obtain ⟨qualified, -, h⟩ := bind_eq_ok.1 h
  obtain ⟨columns, -, h⟩ := bind_eq_ok.1 h
  obtain ⟨-, -, h⟩ := bind_eq_ok.1 h
  obtain ⟨m, hm, h⟩ := bind_eq_ok.1 h
  obtain ⟨sql, -, h⟩ := bind_eq_ok.1 h
  obtain ⟨⟨statement, after⟩, hprepared, h⟩ := bind_eq_ok.1 h
  cases h
  simp only [Connection.prepare, Connection.whileOpen] at hprepared
  split at hprepared <;> cases hprepared
  exact ⟨⟨⟨_, _, Marshaller.sound_forSink hm⟩, rfl⟩, rfl, rfl, rfl⟩

end Sink

end TableTransfer
