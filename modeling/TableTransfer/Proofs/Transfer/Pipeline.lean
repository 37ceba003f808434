import TableTransfer.Proofs.Transfer.Consistent

namespace TableTransfer

theorem Source.OnCourse.prefix_batches {s : Source} {c : Connection} {sent : List Batch}
    {failed : Prop} {p : Party Reading} (h : s.OnCourse c sent failed p) :
    sent <+: (s.delivery c).batches := by
  refine Party.OnCourse.connection_holds (P := fun _ => sent <+: (s.delivery c).batches) h
    ?_ ?_ ?_ fun _ => id
  · rintro rfl
    exact List.nil_prefix
  · rintro r d ⟨-, hahead⟩
    rw [← hahead]
    exact List.prefix_append sent _
  · rintro w ⟨-, hended⟩
    cases hended with
    | all h _ => exact h ▸ List.prefix_rfl
    | cut h _ _ => exact h ▸ List.prefix_append sent _

theorem Source.OnCourse.of_gone_ok {s : Source} {c d : Connection} {sent : List Batch}
    {failed : Prop} {n : Nat} (h : s.OnCourse c sent failed ⟨.gone (.ok n), d⟩) :
    (s.delivery c).batches = sent ∧ (s.delivery c).result = .ok n := by
  obtain ⟨w, ⟨-, hended⟩, hresult, -⟩ := Party.OnCourse.of_gone_ok h
  rw [hresult] at hended
  cases hended with
  | all h hr => exact ⟨h, hr.symm⟩
  | cut h _ hr => cases hr

theorem Source.delivery_of_read {s : Source} {c : Connection} {m : Marshaller} {cur : Cursor}
    {records : List Record} (hopened : s.opened c = .ok (m, cur))
    (hrecords : Source.records m cur = records.map .ok) :
    (s.delivery c).result = .ok records.length ∧ (s.delivery c).batches.flatten = records := by
  have hdelivery : s.delivery c = .ofRows s.size [] 0 (records.map .ok) := by
    rw [delivery, hopened, ← hrecords]
  have hresult : (Delivery.ofRows s.size [] 0 (records.map .ok)).result = .ok records.length := by
    rw [Delivery.ofRows_of_read, Nat.zero_add]
  rw [hdelivery]
  exact ⟨hresult, map_ok_injective (Delivery.ofRows_complete hresult).1⟩

def Sink.converted (k : Sink) (d : Connection) (records : List Record) :
    List (Except Error (List Param)) :=
  match k.writer d with
  | .ok w => records.map w.marshaller.row
  | .error _ => []

theorem Sink.work_captures (k : Sink) (d : Connection) (received : List Batch) :
    ∃ rows, (k.work d received).connection.written = d.written ++ rows ∧
      rows.map .ok <+: k.converted d received.flatten ∧
      ∀ n, (k.work d received).result = .ok n →
        (∃ w, k.writer d = .ok w) ∧ rows.map .ok = k.converted d received.flatten ∧
          n = rows.length := by
  rw [work, converted]
  cases hwriter : k.writer d with
  | error e => exact ⟨[], (List.append_nil _).symm, List.prefix_rfl, fun n hn => by cases hn⟩
  | ok first =>
      obtain ⟨hready, hcount, hwritten, -⟩ := writer_eq_ok hwriter
      obtain ⟨rows, hconnection, hprefix, hall⟩ := hready.writeAll_captures received.flatten
      refine ⟨rows, ?_, hprefix, fun n hn => ?_⟩
      · rw [hconnection, ← hwritten]
        rfl
      · obtain ⟨hrows, hn⟩ := hall n hn
        rw [hcount, Nat.zero_add] at hn
        exact ⟨⟨first, rfl⟩, hrows, hn⟩

theorem Sink.work_of_rows {k : Sink} {d : Connection} {w : Writer} {received : List Batch}
    {rows : List (List Param)} (hw : k.writer d = .ok w)
    (hrows : received.flatten.map w.marshaller.row = rows.map .ok) :
    (k.work d received).result = .ok rows.length ∧
      (k.work d received).connection.closeFault = d.closeFault := by
  obtain ⟨hready, hcount, -, hclose⟩ := writer_eq_ok hw
  rw [work, hw]
  dsimp only
  rw [hready.writeAll_of_rows hrows]
  refine ⟨?_, hclose⟩
  change Except.ok (w.rows + rows.length) = _
  rw [hcount, Nat.zero_add]

theorem Sink.OnCourse.captures {k : Sink} {d : Connection} {sent queue : List Batch}
    {closed : Prop} {p : Party Writing} (h : k.OnCourse d sent queue closed p) :
    ∃ rows, p.connection.written = d.written ++ rows ∧
      rows.map .ok <+: k.converted d sent.flatten := by
  refine Party.OnCourse.connection_holds
    (P := fun e => ∃ rows, e.written = d.written ++ rows ∧
      rows.map .ok <+: k.converted d sent.flatten) h ?_ ?_ ?_ fun _ => id
  · intro _
    exact ⟨[], (List.append_nil _).symm, List.nil_prefix⟩
  · rintro w e ⟨rfl, first, taken, rows, hfirst, hwriter, hrows, hsent⟩
    obtain ⟨-, -, hwritten, -⟩ := writer_eq_ok hfirst
    refine ⟨rows, ?_, ?_⟩
    · rw [hwriter, ← hwritten]
      rfl
    · rw [converted, hfirst, hsent, List.append_assoc]
      simp only [List.map_append]
      rw [hrows]
      exact List.prefix_append _ _
  · rintro w ⟨rfl, -⟩
    obtain ⟨rows, hwritten, hprefix, -⟩ := k.work_captures d sent
    exact ⟨rows, hwritten, hprefix⟩

theorem Sink.OnCourse.of_gone_ok {k : Sink} {d e : Connection} {sent queue : List Batch}
    {closed : Prop} {n : Nat} (h : k.OnCourse d sent queue closed ⟨.gone (.ok n), e⟩) :
    ∃ rows, e.written = d.written ++ rows ∧ (∃ w, k.writer d = .ok w) ∧
      rows.map .ok = k.converted d sent.flatten ∧ n = rows.length := by
  obtain ⟨w, ⟨rfl, -⟩, hresult, rfl⟩ := Party.OnCourse.of_gone_ok h
  obtain ⟨rows, hwritten, -, hall⟩ := k.work_captures d sent
  exact ⟨rows, hwritten, hall n hresult⟩

namespace Pipeline

/-- What the rows of the source are captured as by the sink, each row by itself. -/
def conversions (s : Source) (k : Sink) (c d : Connection) : List (Except Error (List Param)) :=
  match s.opened c, k.writer d with
  | .ok (m, cur), .ok w => (Source.records m cur).map fun r => r.bind w.marshaller.row
  | _, _ => []

theorem map_row_eq (m : Marshaller) (records : List Record) :
    records.map m.row = (records.map Except.ok).map fun r => r.bind m.row := by
  rw [List.map_map]
  rfl

theorem prefix_conversions (s : Source) (k : Sink) (c d : Connection) :
    k.converted d (s.delivery c).batches.flatten <+: conversions s k c d := by
  rw [Sink.converted, conversions, Source.delivery]
  cases s.opened c with
  | error e => cases k.writer d <;> exact List.prefix_rfl
  | ok opened =>
      obtain ⟨m, cur⟩ := opened
      cases k.writer d with
      | error e => exact List.prefix_rfl
      | ok w =>
          dsimp only
          rw [map_row_eq]
          exact (Delivery.prefix_rows s.size [] 0 _).map _

theorem converted_of_ok {s : Source} {c : Connection} {n : Nat}
    (h : (s.delivery c).result = .ok n) (k : Sink) (d : Connection) :
    k.converted d (s.delivery c).batches.flatten = conversions s k c d ∧
      ∃ m cur, s.opened c = .ok (m, cur) ∧ n = cur.rows.length := by
  rw [Sink.converted, conversions]
  rw [Source.delivery] at h ⊢
  cases hopened : s.opened c with
  | error e =>
      rw [hopened] at h
      cases h
  | ok opened =>
      obtain ⟨m, cur⟩ := opened
      rw [hopened] at h
      obtain ⟨hrows, hn⟩ := Delivery.ofRows_complete h
      refine ⟨?_, m, cur, rfl, ?_⟩
      · cases k.writer d with
        | error e => rfl
        | ok w =>
            dsimp only
            rw [map_row_eq, hrows]
            rfl
      · simpa [Source.records, Cursor.onRows] using hn

theorem converted_mono (k : Sink) (d : Connection) {sent batches : List Batch}
    (h : sent <+: batches) :
    k.converted d sent.flatten <+: k.converted d batches.flatten := by
  obtain ⟨rest, rfl⟩ := h
  rw [Sink.converted, Sink.converted]
  cases k.writer d with
  | error e => exact List.prefix_rfl
  | ok w =>
      dsimp only
      rw [List.flatten_append, List.map_append]
      exact List.prefix_append _ _

variable {s : Source} {k : Sink} {c d : Connection} {p : Pipeline} {sent : List Batch}

theorem Consistent.captures (h : p.Consistent s k c d sent) :
    ∃ rows, p.writer.connection.written = d.written ++ rows ∧
      rows.map .ok <+: conversions s k c d := by
  obtain ⟨rows, hwritten, hprefix⟩ := h.writer.captures
  have hsent := converted_mono k d h.reader.prefix_batches
  exact ⟨rows, hwritten, hprefix.trans (hsent.trans (prefix_conversions s k c d))⟩

theorem Consistent.captures_all (h : p.Consistent s k c d sent) {n m : Nat}
    (hreader : p.reader.stage = .gone (.ok n)) (hwriter : p.writer.stage = .gone (.ok m)) :
    ∃ rows, p.writer.connection.written = d.written ++ rows ∧
      rows.map .ok = conversions s k c d ∧
      ∃ q cur, s.opened c = .ok (q, cur) ∧ n = cur.rows.length ∧ m = cur.rows.length := by
  obtain ⟨rfl, hresult⟩ := (h.reader_at hreader).of_gone_ok
  obtain ⟨rows, hwritten, ⟨w, hw⟩, hrows, hm⟩ := (h.writer_at hwriter).of_gone_ok
  obtain ⟨hall, q, cur, hopened, hn⟩ := converted_of_ok hresult k d
  have hconversions := hrows.trans hall
  refine ⟨rows, hwritten, hconversions, q, cur, hopened, hn, ?_⟩
  have hlength := congrArg List.length hconversions
  simpa [conversions, hopened, hw, Source.records, Cursor.onRows, ← hm] using hlength

/-- The captured rows at any moment of any run are the conversions of the first rows of the source.
If both succeed they are those of all rows, both count the rows of the query, and every other run
that succeeds, with batches of another size, another queue and turns in another order, captures
the same. -/
theorem run_captures (s : Source) (k : Sink) (capacity : Nat) (r : Registry) (c d : Connection)
    (turns : List Turn) :
    ∃ rows, (run s k capacity r c d turns).writer.connection.written = d.written ++ rows ∧
      rows.map .ok <+: conversions s k c d ∧
      ∀ n m, (run s k capacity r c d turns).reader.stage = .gone (.ok n) →
        (run s k capacity r c d turns).writer.stage = .gone (.ok m) →
        rows.map .ok = conversions s k c d ∧
        (∃ q cur, s.opened c = .ok (q, cur) ∧ n = cur.rows.length ∧ m = cur.rows.length) ∧
        ∀ size capacity' r' turns' n' m',
          (run { s with batchSize := size } k capacity' r' c d turns').reader.stage =
            .gone (.ok n') →
          (run { s with batchSize := size } k capacity' r' c d turns').writer.stage =
            .gone (.ok m') →
          (run { s with batchSize := size } k capacity' r' c d turns').writer.connection.written =
            (run s k capacity r c d turns).writer.connection.written := by
  obtain ⟨sent, hrun⟩ := consistent_run s k capacity r c d turns
  obtain ⟨rows, hwritten, hprefix⟩ := hrun.captures
  refine ⟨rows, hwritten, hprefix, fun n m hreader hwriter => ?_⟩
  obtain ⟨all, hwritten', hall, hcounts⟩ := hrun.captures_all hreader hwriter
  obtain rfl : rows = all := List.append_cancel_left (hwritten.symm.trans hwritten')
  refine ⟨hall, hcounts, fun size capacity' r' turns' n' m' hreader' hwriter' => ?_⟩
  obtain ⟨sent', hrun'⟩ := consistent_run { s with batchSize := size } k capacity' r' c d turns'
  obtain ⟨others, hothers, hothers', -⟩ := hrun'.captures_all hreader' hwriter'
  have hsame : others = rows := map_ok_injective (hothers'.trans hall.symm)
  rw [hothers, hwritten, hsame]

/-- Two rows through a queue with room for one, each in a batch of its own. -/
example :
    let id : Column := { name := "ID", code := StandardType.integer.code, typeName := "INTEGER" }
    let setup : DriverSetup := ⟨⟨"memory", "mem", 0⟩, none⟩
    let p := run ⟨.generic, setup, "SELECT", none, 1⟩
      ⟨.generic, setup, "", "t", [⟨"ID", ⟨.int, false⟩⟩]⟩ 1 {}
      { results := [("SELECT", ⟨[id], [[.i32 1], [.i32 2]]⟩)] } { tables := [("\"t\"", [id])] }
      (List.replicate 14 [Turn.source, .sink]).flatten
    p.reader.stage = .gone (.ok 2) ∧ p.writer.stage = .gone (.ok 2) ∧
      p.writer.connection.written = [[⟨1, .i32 1⟩], [⟨1, .i32 2⟩]] := by
  cbv

theorem Consistent.source_report (h : p.Consistent s k c d sent) {result : Except Error Nat}
    (hreader : p.reader.stage = .gone result) :
    ∃ r receiving, (s.run r c receiving).result = result ∧
      (s.run r c receiving).connection = p.reader.connection := by
  have hsource := h.reader_at hreader
  by_cases hall : (s.delivery c).batches = sent
  · obtain ⟨r, hr⟩ := hsource.exists_report (fun c =>
      { result := ((s.delivery c).send true).2, connection := c,
        sent := ((s.delivery c).send true).1 }) (by
      rintro w ⟨hconnection, hended⟩
      refine ⟨?_, hconnection.symm⟩
      cases hended with
      | all _ hresult => exact hresult.symm
      | cut hcut _ _ => simp [hcut] at hall)
    exact ⟨r, true, hr⟩
  · obtain ⟨r, hr⟩ := hsource.exists_report (fun c =>
      { result := ((s.delivery c).send false).2, connection := c,
        sent := ((s.delivery c).send false).1 }) (by
      rintro w ⟨hconnection, hended⟩
      refine ⟨?_, hconnection.symm⟩
      cases hended with
      | all hsent _ => exact absurd hsent hall
      | cut hcut _ hresult => simp [Delivery.send, hcut, hresult])
    exact ⟨r, false, hr⟩

theorem Consistent.sink_report (h : p.Consistent s k c d sent) {result : Except Error Nat}
    (hwriter : p.writer.stage = .gone result) :
    ∃ r, (k.run r d sent).result = result ∧ (k.run r d sent).connection = p.writer.connection := by
  refine (h.writer_at hwriter).exists_report (fun d => k.work d sent) ?_
  rintro w ⟨rfl, -⟩
  exact ⟨rfl, rfl⟩

/-- A source that is gone has come to what a run of it alone comes to, and so has a sink with the
batches that were sent to it. -/
theorem run_reports (s : Source) (k : Sink) (capacity : Nat) (r : Registry) (c d : Connection)
    (turns : List Turn) :
    (∀ result, (run s k capacity r c d turns).reader.stage = .gone result →
      ∃ r' receiving, (s.run r' c receiving).result = result ∧
        (s.run r' c receiving).connection = (run s k capacity r c d turns).reader.connection) ∧
    ∀ result, (run s k capacity r c d turns).writer.stage = .gone result →
      ∃ r' sent, sent <+: (s.delivery c).batches ∧ (k.run r' d sent).result = result ∧
        (k.run r' d sent).connection = (run s k capacity r c d turns).writer.connection := by
  obtain ⟨sent, hrun⟩ := consistent_run s k capacity r c d turns
  refine ⟨fun result hreader => hrun.source_report hreader, fun result hwriter => ?_⟩
  obtain ⟨r', hresult, hconnection⟩ := hrun.sink_report hwriter
  exact ⟨r', sent, hrun.reader.prefix_batches, hresult, hconnection⟩

/-- Neither drivers nor closing report a fault, and every row is read and written. -/
structure Faultless (s : Source) (k : Sink) (c d : Connection) (rows : List (List Param)) :
    Prop where
  source : s.setup.fault = none
  sink : k.setup.fault = none
  closing : c.closeFault = none ∧ d.closeFault = none
  converts : ∃ (m : Marshaller) (cur : Cursor) (records : List Record) (w : Writer),
    s.opened c = .ok (m, cur) ∧ Source.records m cur = records.map .ok ∧
    k.writer d = .ok w ∧ records.map w.marshaller.row = rows.map .ok

theorem Faultless.conversions_eq {rows : List (List Param)} (hf : Faultless s k c d rows) :
    conversions s k c d = rows.map .ok := by
  obtain ⟨m, cur, records, w, hopened, hrecords, hw, hrows⟩ := hf.converts
  rw [conversions, hopened, hw, ← hrows]
  dsimp only
  rw [hrecords, map_row_eq]

/-- A source and a sink that nothing is at fault with have succeeded when both are gone. -/
theorem Consistent.succeeds (h : p.Consistent s k c d sent) {rows : List (List Param)}
    (hf : Faultless s k c d rows) {result result' : Except Error Nat}
    (hreader : p.reader.stage = .gone result) (hwriter : p.writer.stage = .gone result') :
    result = .ok rows.length ∧ result' = .ok rows.length := by
  obtain ⟨m, cur, records, w, hopened, hrecords, hw, hrows⟩ := hf.converts
  obtain ⟨hresult, hflatten⟩ := Source.delivery_of_read hopened hrecords
  have hlength : records.length = rows.length := by simpa using congrArg List.length hrows
  -- What was sent is the first part of it, so that the sink cannot have failed on the way.
  obtain ⟨rest, hrest⟩ := h.reader.prefix_batches
  obtain ⟨first, hfirst⟩ : ∃ first : List (List Param),
      sent.flatten.map w.marshaller.row = first.map .ok := by
    rw [← hflatten, ← hrest, List.flatten_append, List.map_append] at hrows
    obtain ⟨first, last, -, hfirst, -⟩ := List.map_eq_append_iff.1 hrows.symm
    exact ⟨first, hfirst.symm⟩
  have hnever : ¬k.Fails d sent := by
    rintro (⟨r, e, hr⟩ | ⟨e, he⟩)
    · rw [hf.sink, Registry.acquire_of_no_fault] at hr
      cases hr
    · rw [(Sink.work_of_rows hw hfirst).1] at he
      cases he
  obtain ⟨work, ⟨hconnection, hended⟩, rfl⟩ := (h.reader_at hreader).of_gone hf.source
  obtain ⟨_, ⟨rfl, -⟩, rfl⟩ := (h.writer_at hwriter).of_gone hf.sink
  cases hended with
  | cut _ hfails _ => exact absurd hfails hnever
  | all hsent hdone =>
      rw [← hsent, hflatten] at hfirst
      obtain rfl : first = rows := map_ok_injective (hfirst.symm.trans hrows)
      have hwritten : sent.flatten.map w.marshaller.row = first.map .ok := by
        rw [← hsent, hflatten, hrows]
      obtain ⟨hall, hclose⟩ := Sink.work_of_rows hw hwritten
      constructor
      · rw [Report.result_ofWork (hconnection ▸ hf.closing.1), hdone, hresult, hlength]
      · rw [Report.result_ofWork (hclose.trans hf.closing.2), hall]

end Pipeline

end TableTransfer
