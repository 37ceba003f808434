import TableTransfer.Proofs.Marshaller.Found
import TableTransfer.Proofs.Transfer.Run
import TableTransfer.Proofs.Transfer.Writer

namespace TableTransfer

namespace Marshaller

def written (m : Marshaller) (record : Record) : Except Error (List Param) :=
  match (m.writeRecord record).runOn ({} : Statement) with
  | (.ok _, s) => .ok s.executed
  | (.error e, _) => .error e

theorem Sound.written_eq_row {m : Marshaller} {vendor : Vendor} {fields : List Field}
    (hm : Sound m vendor fields) (record : Record) : m.written record = m.row record := by
  rw [written, row]
  cases hstage : m.stage record with
  | error e =>
      rw [writeRecord_of_stage_error hstage]
      rfl
  | ok ps =>
      rw [hm.writeRecord_of_stage hstage]
      rfl

end Marshaller

structure Report.WritesNothing (report : Report) (d : Connection) (e : Error) : Prop where
  prepared_eq : report.connection.prepared = d.prepared
  written_eq : report.connection.written = d.written
  result_eq : report.result = .error e

theorem Report.WritesNothing.of_close {report : Report} {d : Connection} {e : Error}
    (hconnection : report.connection = d.close.2) (hresult : report.result = .error e) :
    report.WritesNothing d e := by
  refine ⟨?_, ?_, hresult⟩
  · rw [hconnection]
    rfl
  · rw [hconnection]
    rfl

namespace Sink

/-- What is checked before a statement is made: the name of the table, that there is such a table,
and its columns. -/
def checked (k : Sink) (d : Connection) : Except Error (String × List Column) := do
  let qualified ← k.vendor.qualify k.schemaName k.table
  let columns ← d.tableColumns qualified
  Schema.check k.vendor .sink k.fields columns
  return (qualified, columns)

variable {k : Sink} {r : Registry} {d : Connection} {qualified sql : String}
  {columns : List Column} {e : Error} {received : List Batch}

theorem writer_eq (k : Sink) (d : Connection) :
    k.writer d = k.checked d >>= fun (qualified, columns) => do
      let marshaller ← Marshaller.forSink k.vendor k.fields columns
      let sql ← insertStatement k.vendor qualified k.fields
      let (statement, c) ← d.prepare sql
      return { marshaller, statement, connection := c } := by
  simp only [writer, checked, bind_assoc, pure_bind]

theorem cover_of_checked (h : k.checked d = .ok (qualified, columns)) :
    Column.Cover columns k.fields := by
  obtain ⟨_, -, h⟩ := bind_eq_ok.1 h
  obtain ⟨_, -, h⟩ := bind_eq_ok.1 h
  obtain ⟨⟨⟩, hcheck, h⟩ := bind_eq_ok.1 h
  cases h
  exact Schema.cover_of_check hcheck

theorem prepare_of_checked (h : k.checked d = .ok (qualified, columns)) (sql : String) :
    d.prepare sql = .ok ({ sql }, { d with prepared := d.prepared ++ [sql] }) := by
  obtain ⟨_, -, h⟩ := bind_eq_ok.1 h
  obtain ⟨_, htable, -⟩ := bind_eq_ok.1 h
  rw [Connection.tableColumns, Connection.whileOpen] at htable
  rw [Connection.prepare, Connection.whileOpen]
  split at htable
  · cases htable
  · rename_i hopen
    exact if_neg hopen

theorem writer_of_checked_error (h : k.checked d = .error e) : k.writer d = .error e := by
  rw [writer_eq, h]
  rfl

theorem writer_of_insert_error (h : k.checked d = .ok (qualified, columns))
    (hinsert : insertStatement k.vendor qualified k.fields = .error e) :
    k.writer d = .error e := by
  obtain ⟨m, hm⟩ := Marshaller.exists_forSink k.vendor (cover_of_checked h)
  rw [writer_eq, h]
  change (Marshaller.forSink k.vendor k.fields columns >>= _) = _
  rw [hm]
  change (insertStatement k.vendor qualified k.fields >>= _) = _
  rw [hinsert]
  rfl

theorem writer_of_insert (h : k.checked d = .ok (qualified, columns))
    (hinsert : insertStatement k.vendor qualified k.fields = .ok sql) :
    ∃ m, Marshaller.forSink k.vendor k.fields columns = .ok m ∧
      k.writer d = .ok ⟨m, { sql }, { d with prepared := d.prepared ++ [sql] }, 0⟩ := by
  obtain ⟨m, hm⟩ := Marshaller.exists_forSink k.vendor (cover_of_checked h)
  refine ⟨m, hm, ?_⟩
  rw [writer_eq]
  exact bind_eq_ok.2 ⟨_, h, bind_eq_ok.2 ⟨m, hm, bind_eq_ok.2 ⟨sql, hinsert,
    bind_eq_ok.2 ⟨_, prepare_of_checked h sql, rfl⟩⟩⟩⟩

theorem run_of_granted (h : (r.acquire k.setup.driver k.setup.fault).1 = .ok ()) (d : Connection)
    (received : List Batch) :
    (k.run r d received).result =
        outcomeOf (k.work d received).result (k.work d received).connection.close.1 ∧
      (k.run r d received).connection = (k.work d received).connection.close.2 := by
  obtain ⟨hresult, hconnection, -⟩ :=
    Report.ofRun_of_granted h d fun d => k.work d received
  exact ⟨hresult, hconnection⟩

theorem writesNothing_of_writer (h : (r.acquire k.setup.driver k.setup.fault).1 = .ok ())
    (hwriter : k.writer d = .error e) (received : List Batch) :
    (k.run r d received).WritesNothing d e := by
  have hwork : k.work d received = { result := .error e, connection := d } := by
    rw [work, hwriter]
  obtain ⟨hresult, hconnection⟩ := run_of_granted h d received
  rw [hwork] at hresult hconnection
  exact .of_close hconnection hresult

/-- A sink prepares one statement, writes the rows of all records with it and counts them, unless
closing reports a fault. If there is a record that is rejected it writes the rows of those before
the first one, and without a handle on the driver, where a check fails or where there is no
statement for the fields it prepares and writes nothing. -/
theorem run_writes_rows_up_to_rejection (k : Sink) (r : Registry) (d : Connection) (received : List Batch) :
    (∀ e, (r.acquire k.setup.driver k.setup.fault).1 = .error e →
      (k.run r d received).WritesNothing d e) ∧
    ((r.acquire k.setup.driver k.setup.fault).1 = .ok () →
      (∀ e, k.checked d = .error e → (k.run r d received).WritesNothing d e) ∧
      ∀ qualified columns, k.checked d = .ok (qualified, columns) →
        (∀ e, insertStatement k.vendor qualified k.fields = .error e →
          (k.run r d received).WritesNothing d e) ∧
        ∀ sql, insertStatement k.vendor qualified k.fields = .ok sql →
          ∃ m, Marshaller.forSink k.vendor k.fields columns = .ok m ∧
            (k.run r d received).connection.prepared = d.prepared ++ [sql] ∧
            (∀ rows, received.flatten.map m.written = rows.map .ok →
              (k.run r d received).connection.written = d.written ++ rows ∧
                (k.run r d received).result = outcomeOf (.ok rows.length) d.close.1) ∧
            ∀ taken record rest rows e, received.flatten = taken ++ record :: rest →
              taken.map m.written = rows.map .ok → m.written record = .error e →
              (k.run r d received).connection.written = d.written ++ rows ∧
                (k.run r d received).result = .error e) := by
  refine ⟨fun e he => ?_, fun hgranted => ⟨fun e he => ?_, fun qualified columns hchecked =>
    ⟨fun e he => ?_, fun sql hinsert => ?_⟩⟩⟩
  · obtain ⟨hresult, hconnection, -⟩ :=
      Report.ofRun_of_refused he d fun d => k.work d received
    exact .of_close hconnection hresult
  · exact writesNothing_of_writer hgranted (writer_of_checked_error he) received
  · exact writesNothing_of_writer hgranted (writer_of_insert_error hchecked he) received
  obtain ⟨m, hm, hw⟩ := writer_of_insert hchecked hinsert
  obtain ⟨hready, -⟩ := writer_eq_ok hw
  obtain ⟨hresult, hconnection⟩ := run_of_granted hgranted d received
  rw [work, hw] at hresult hconnection
  dsimp only at hresult hconnection
  have hrow : m.written = m.row := funext (Marshaller.sound_forSink hm).written_eq_row
  refine ⟨m, hm, ?_, fun rows hrows => ?_, fun taken record rest rows e hflatten hrows he => ?_⟩
  · obtain ⟨rows, hcaptured, -⟩ := hready.writeAll_captures received.flatten
    rw [hconnection, hcaptured]
    rfl
  · rw [hrow] at hrows
    rw [hready.writeAll_of_rows hrows] at hresult hconnection
    rw [hconnection, hresult]
    refine ⟨rfl, ?_⟩
    change outcomeOf (.ok (0 + rows.length)) d.close.1 = _
    rw [Nat.zero_add]
  · rw [hrow] at hrows he
    rw [hflatten, hready.writeAll_append hrows, Writer.writeAll,
      (hready.wrote rows).write_of_row_error he] at hresult hconnection
    rw [hconnection, hresult]
    exact ⟨rfl, rfl⟩

theorem run_writes_rows_before_text :
    ∃ report e, report = run ⟨.generic, ⟨⟨"memory", "mem", 0⟩, none⟩, "", "t",
          [⟨"ID", ⟨.int, false⟩⟩]⟩ {}
        { tables := [("\"t\"",
            [{ name := "ID", code := StandardType.integer.code, typeName := "INTEGER" }])] }
        [[.ofList [("ID", .int 1)], .ofList [("ID", .int 2)]], [],
          [.ofList [("ID", .string "three")], .ofList [("ID", .int 4)]]] ∧
      report.connection.prepared = ["INSERT INTO \"t\" (\"ID\") VALUES (?)"] ∧
      report.connection.written = [[⟨1, .i32 1⟩], [⟨1, .i32 2⟩]] ∧ report.result = .error e := by
  obtain ⟨m, hm, hprepared, -, hfault⟩ :=
    (((run_writes_rows_up_to_rejection ⟨.generic, ⟨⟨"memory", "mem", 0⟩, none⟩, "", "t",
          [⟨"ID", ⟨.int, false⟩⟩]⟩ {}
        { tables := [("\"t\"",
            [{ name := "ID", code := StandardType.integer.code, typeName := "INTEGER" }])] }
        [[.ofList [("ID", .int 1)], .ofList [("ID", .int 2)]], [],
          [.ofList [("ID", .string "three")], .ofList [("ID", .int 4)]]]).2 rfl).2 _ _ rfl).2 _ rfl
  cases hm
  refine ⟨_, _, rfl, hprepared, hfault [_, _] _ _ _ _ rfl ?_ rfl⟩
  exact congrArg₂ (fun row row' => [Except.ok row, .ok row'])
    (List.mergeSort_singleton _) (List.mergeSort_singleton _)

/-- Nothing is at fault with a table without columns, but there is no statement to prepare. -/
theorem run_without_fields :
    checked ⟨.generic, ⟨⟨"memory", "mem", 0⟩, none⟩, "", "t", []⟩ { tables := [("\"t\"", [])] } =
        .ok ("\"t\"", []) ∧
      (run ⟨.generic, ⟨⟨"memory", "mem", 0⟩, none⟩, "", "t", []⟩ {} { tables := [("\"t\"", [])] }
          []).connection.prepared = [] :=
  ⟨rfl, rfl⟩

end Sink

end TableTransfer
