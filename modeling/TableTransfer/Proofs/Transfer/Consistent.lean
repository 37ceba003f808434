import TableTransfer.Proofs.Transfer.Course
import TableTransfer.Proofs.Transfer.Delivery
import TableTransfer.Proofs.Transfer.Writer

namespace TableTransfer

namespace Reading

variable {r : Reading} {size : Nat}

/-- What is still to be sent, the batch that waits for room first. -/
def ahead (r : Reading) (size : Nat) : Delivery :=
  Delivery.after r.outgoing.toList <|
    if r.exhausted then ⟨[], .ok r.count⟩
    else .ofRows size r.batch r.count (r.cursor.ahead.map r.marshaller.readRecord)

inductive Turned (r : Reading) (size : Nat) (receiving : Bool) (queue : List Batch) :
    Stage Reading × List Batch → Prop
  | read {r' : Reading} (h : r'.ahead size = r.ahead size) :
      Turned r size receiving queue (.working r', queue)
  | sent {r' : Reading} {batch : Batch} (hreceiving : receiving = true)
      (h : r.ahead size = (r'.ahead size).after [batch]) :
      Turned r size receiving queue (.working r', queue ++ [batch])
  | refused {d : Delivery} {batch : Batch} (hreceiving : receiving = false)
      (h : r.ahead size = d.after [batch]) :
      Turned r size receiving queue (.worked (.error (.resource .receiverGone)), queue)
  | ended {result : Except Error Nat} (h : r.ahead size = ⟨[], result⟩) :
      Turned r size receiving queue (.worked result, queue)

theorem turned_fetch {receiving : Bool} {queue : List Batch} (hout : r.outgoing = none)
    (hmore : r.exhausted = false) : r.Turned size receiving queue (r.fetch size, queue) := by
  have hahead : r.ahead size =
      .ofRows size r.batch r.count (r.cursor.ahead.map r.marshaller.readRecord) := by
    rw [ahead, hout, hmore]
    rfl
  simp only [fetch]
  split
  · rename_i cursor hnext
    rw [Cursor.ahead_of_next hnext, List.map_cons] at hahead
    split
    · rename_i record hrecord
      rw [hrecord] at hahead
      split
      · rename_i hfull
        rw [Delivery.ofRows_of_full hfull] at hahead
        refine .read ?_
        rw [hahead, ahead, hmore]
        rfl
      · rename_i hroom
        rw [Delivery.ofRows_of_room hroom] at hahead
        refine .read ?_
        rw [hahead, ahead, hmore, hout]
        rfl
    · rename_i e hrecord
      rw [hrecord] at hahead
      exact .ended hahead
  · rename_i hnext
    rw [Cursor.ahead_of_not_next hnext, List.map_nil, Delivery.ofRows_nil] at hahead
    refine .read ?_
    rw [hahead]
    rfl

theorem turned (r : Reading) (size capacity : Nat) (receiving : Bool) (queue : List Batch) :
    r.Turned size receiving queue (r.turn size capacity receiving queue) := by
  rw [turn]
  split
  · rename_i batch hout
    cases receiving with
    | false =>
      exact .refused (d := { r with outgoing := none }.ahead size) rfl (by rw [ahead, hout]; rfl)
    | true =>
      rw [Bool.not_true, if_neg Bool.false_ne_true]
      split
      · exact .sent rfl (by rw [ahead, hout]; rfl)
      · exact .read rfl
  · rename_i hout
    cases hmore : r.exhausted with
    | true =>
        refine .ended ?_
        rw [ahead, hout, hmore]
        rfl
    | false => exact turned_fetch hout hmore

end Reading

/-- All of a delivery has been sent, or a batch of it has found the receiver gone, which then has
`failed`. -/
inductive Delivery.Ended (d : Delivery) (sent : List Batch) (failed : Prop)
    (result : Except Error Nat) : Prop
  | all (h : d.batches = sent) (hresult : result = d.result)
  | cut {batch : Batch} {rest : List Batch} (h : d.batches = sent ++ batch :: rest)
      (hfailed : failed) (hresult : result = .error (.resource .receiverGone))

def Source.OnCourse (s : Source) (c : Connection) (sent : List Batch) (failed : Prop)
    (p : Party Reading) : Prop :=
  p.OnCourse s.setup c (sent = [])
    (fun r d => d = c ∧ (r.ahead s.size).after sent = s.delivery c)
    (fun w => w.connection = c ∧ (s.delivery c).Ended sent failed w.result)

/-- The driver can be refused, or what was sent cannot be written. -/
def Sink.Fails (k : Sink) (d : Connection) (sent : List Batch) : Prop :=
  (∃ (r : Registry) (e : Error), (r.acquire k.setup.driver k.setup.fault).1 = .error e) ∨
    ∃ e, (k.work d sent).result = .error e

/-- What a sink has written, the rest of its batch and the batches in the queue are together what
was sent to it. -/
def Sink.Writes (k : Sink) (d : Connection) (sent queue : List Batch) (w : Writing) : Prop :=
  ∃ first taken rows, k.writer d = .ok first ∧ w.writer = first.wrote rows ∧
    taken.map first.marshaller.row = rows.map .ok ∧
    sent.flatten = taken ++ w.pending ++ queue.flatten

def Sink.OnCourse (k : Sink) (d : Connection) (sent queue : List Batch) (closed : Prop)
    (p : Party Writing) : Prop :=
  p.OnCourse k.setup d (queue = sent)
    (fun w e => e = w.writer.connection ∧ k.Writes d sent queue w)
    (fun w => w = k.work d sent ∧ ∀ n, w.result = .ok n → closed)

namespace Pipeline

/-- `sent` are the batches that ever were in the queue. -/
structure Consistent (s : Source) (k : Sink) (c d : Connection) (p : Pipeline)
    (sent : List Batch) : Prop where
  reader : s.OnCourse c sent (k.Fails d sent) p.reader
  writer : k.OnCourse d sent p.queue (p.sending = false) p.writer

end Pipeline

theorem Connection.position_of_query {c : Connection} {sql : String} {cur : Cursor}
    (h : c.query sql = .ok cur) : cur.position = none := by
  simp only [query, whileOpen] at h
  split at h
  · cases h
  · split at h <;> cases h
    rfl

theorem Source.position_of_opened {s : Source} {c : Connection} {m : Marshaller} {cur : Cursor}
    (h : s.opened c = .ok (m, cur)) : cur.position = none := by
  simp only [opened] at h
  obtain ⟨cur', hquery, h⟩ := bind_eq_ok.1 h
  obtain ⟨fields, -, h⟩ := bind_eq_ok.1 h
  obtain ⟨m', -, h⟩ := bind_eq_ok.1 h
  cases h
  exact Connection.position_of_query hquery

theorem Source.enter_eq_ok {s : Source} {c d : Connection} {r : Reading}
    (h : s.enter c = .ok (r, d)) : d = c ∧ r.ahead s.size = s.delivery c := by
  simp only [enter] at h
  obtain ⟨⟨m, cur⟩, hopened, h⟩ := bind_eq_ok.1 h
  cases h
  refine ⟨rfl, ?_⟩
  simp only [delivery, hopened, records]
  rw [Cursor.onRows_eq_ahead (position_of_opened hopened)]
  rfl

theorem Source.enter_eq_error {s : Source} {c : Connection} {e : Error}
    (h : s.enter c = .error e) : s.delivery c = .fault e := by
  simp only [enter] at h
  cases hopened : s.opened c with
  | error e =>
      rw [hopened] at h
      cases h
      rw [delivery, hopened]
  | ok opened =>
      rw [hopened] at h
      cases h

theorem Sink.enter_eq_ok {k : Sink} {d e : Connection} {w : Writing}
    (h : k.enter d = .ok (w, e)) :
    e = w.writer.connection ∧ k.writer d = .ok w.writer ∧ w.pending = [] := by
  simp only [enter] at h
  obtain ⟨writer, hwriter, h⟩ := bind_eq_ok.1 h
  cases h
  exact ⟨rfl, hwriter, rfl⟩

theorem Sink.enter_eq_error {k : Sink} {d : Connection} {e : Error}
    (h : k.enter d = .error e) (sent : List Batch) :
    k.work d sent = { result := .error e, connection := d } := by
  simp only [enter] at h
  cases hwriter : k.writer d with
  | error e =>
      rw [hwriter] at h
      cases h
      rw [work, hwriter]
  | ok writer =>
      rw [hwriter] at h
      cases h

theorem Source.OnCourse.advance {s : Source} {c : Connection} {sent : List Batch} {failed : Prop}
    {p : Party Reading} (h : s.OnCourse c sent failed p) (r : Registry) :
    s.OnCourse c sent failed (p.advance s.setup s.enter r).1 := by
  refine Party.OnCourse.advance r h ?_ ?_
  · rintro reading d rfl hreading
    obtain ⟨rfl, hahead⟩ := enter_eq_ok hreading
    exact ⟨rfl, by rw [hahead, Delivery.after_nil]⟩
  · rintro e rfl he
    have hdelivery := enter_eq_error he
    refine ⟨rfl, ?_⟩
    rw [hdelivery]
    exact .all rfl rfl

theorem Sink.OnCourse.advance {k : Sink} {d : Connection} {sent queue : List Batch} {closed : Prop}
    {p : Party Writing} (h : k.OnCourse d sent queue closed p) (r : Registry) :
    k.OnCourse d sent queue closed (p.advance k.setup k.enter r).1 := by
  refine Party.OnCourse.advance r h ?_ ?_
  · rintro w e rfl hw
    obtain ⟨rfl, hwriter, hpending⟩ := enter_eq_ok hw
    refine ⟨rfl, w.writer, [], [], hwriter, w.writer.wrote_nil.symm, rfl, ?_⟩
    rw [hpending]
    rfl
  · rintro e rfl he
    refine ⟨(enter_eq_error he queue).symm, fun n hn => ?_⟩
    cases hn

theorem Sink.Writes.turn {k : Sink} {d : Connection} {sent queue : List Batch} {w : Writing}
    (h : k.Writes d sent queue w) (sending : Bool) :
    k.OnCourse d sent (w.turn sending queue).2 (sending = false) (w.turn sending queue).1 := by
  obtain ⟨first, taken, rows, hfirst, hwriter, hrows, hsent⟩ := h
  obtain ⟨hready, -⟩ := writer_eq_ok hfirst
  have hwork : k.work d sent = w.writer.writeAll (w.pending ++ queue.flatten) := by
    rw [work, hfirst, hwriter, ← hready.writeAll_append hrows, ← List.append_assoc, ← hsent]
  obtain ⟨writer, pending⟩ := w
  dsimp only at hwriter hsent hwork
  subst hwriter
  cases pending with
  | cons record pending =>
      rw [List.cons_append, Writer.writeAll] at hwork
      simp only [Writing.turn]
      cases hrow : first.marshaller.row record with
      | ok row =>
          have hwrote : (first.wrote rows).write record = .ok (first.wrote (rows ++ [row])) := by
            rw [Writer.wrote_append]
            exact (hready.wrote rows).write_of_row hrow
          rw [hwrote]
          refine .working ⟨rfl, first, taken ++ [record], rows ++ [row], hfirst, rfl, ?_, ?_⟩
          · rw [List.map_append, List.map_append, hrows, List.map_singleton, List.map_singleton,
              hrow]
          · rw [hsent]
            simp
      | error e =>
          rw [(hready.wrote rows).write_of_row_error hrow] at hwork ⊢
          refine .worked (w := ⟨.error e, (first.wrote rows).connection, []⟩)
            ⟨hwork.symm, fun n hn => ?_⟩
          cases hn
  | nil =>
      cases queue with
      | cons batch queue =>
          refine .working ⟨rfl, first, taken, rows, hfirst, rfl, hrows, ?_⟩
          change sent.flatten = taken ++ batch ++ queue.flatten
          rw [hsent]
          simp
      | nil =>
          cases sending with
          | true => exact .working ⟨rfl, first, taken, rows, hfirst, rfl, hrows, hsent⟩
          | false =>
              exact .worked
                (w := ⟨.ok (first.wrote rows).rows, (first.wrote rows).connection, []⟩)
                ⟨hwork.symm, fun _ _ => rfl⟩

/-- A sink that has not dropped its end of the queue takes one more batch in its stride. -/
theorem Sink.OnCourse.push {k : Sink} {d : Connection} {sent : List Batch} {closed : Prop}
    {p : Pipeline} (h : k.OnCourse d sent p.queue closed p.writer) (hreceiving : p.receiving = true)
    (batch : Batch) : k.OnCourse d (sent ++ [batch]) (p.queue ++ [batch]) closed p.writer := by
  obtain ⟨registry, reader, writer, queue⟩ := p
  cases h with
  | waiting h => exact .waiting (congrArg (· ++ [batch]) h)
  | refused h hr => exact .refused (congrArg (· ++ [batch]) h) hr
  | granted h => exact .granted (congrArg (· ++ [batch]) h)
  | working h =>
      obtain ⟨rfl, first, taken, rows, hfirst, hwriter, hrows, hsent⟩ := h
      refine .working ⟨rfl, first, taken, rows, hfirst, hwriter, hrows, ?_⟩
      rw [List.flatten_append, hsent, List.flatten_append, List.append_assoc, List.append_assoc]
  | worked | closed | released | gone | denied => cases hreceiving

theorem Sink.OnCourse.fails {k : Sink} {d : Connection} {sent queue : List Batch} {closed : Prop}
    {p : Pipeline} (h : k.OnCourse d sent queue closed p.writer) (hreceiving : p.receiving = false)
    (hclosed : ¬closed) : k.Fails d sent := by
  have hwork : (∀ n, (k.work d sent).result = .ok n → closed) → k.Fails d sent := by
    intro hok
    cases hresult : (k.work d sent).result with
    | ok n => exact absurd (hok n hresult) hclosed
    | error e => exact .inr ⟨e, hresult⟩
  obtain ⟨registry, reader, writer, queue'⟩ := p
  cases h with
  | waiting | refused | granted | working => cases hreceiving
  | worked h | closed h | released h | gone h =>
      obtain ⟨rfl, hok⟩ := h
      exact hwork hok
  | denied h hr => exact .inl ⟨_, _, hr⟩

namespace Pipeline

variable {s : Source} {k : Sink} {c d : Connection} {p : Pipeline} {sent : List Batch}

theorem Consistent.reader_at (h : p.Consistent s k c d sent) {stage : Stage Reading}
    (hstage : p.reader.stage = stage) :
    s.OnCourse c sent (k.Fails d sent) ⟨stage, p.reader.connection⟩ := hstage ▸ h.reader

theorem Consistent.writer_at (h : p.Consistent s k c d sent) {stage : Stage Writing}
    (hstage : p.writer.stage = stage) :
    k.OnCourse d sent p.queue (p.sending = false) ⟨stage, p.writer.connection⟩ :=
  hstage ▸ h.writer

theorem Consistent.sourceTurn (h : p.Consistent s k c d sent) (capacity : Nat) :
    ∃ sent', (p.sourceTurn s capacity).Consistent s k c d sent' := by
  rw [Pipeline.sourceTurn]
  cases hwork : p.reader.stage.work? with
  | some r =>
      have hr := Stage.work?_eq_some_iff.1 hwork
      dsimp only
      obtain ⟨hconnection, hahead⟩ := (h.reader_at hr).of_working
      -- While the source works, the sink cannot have ended well.
      have hsending : p.sending = true := by rw [sending, Party.isGone, hr]; rfl
      have hwriter' (closed : Prop) : k.OnCourse d sent p.queue closed p.writer :=
        h.writer.mono id (fun _ _ h => h) fun w hw => ⟨hw.1, fun n hn => by
          rw [hsending] at hw
          cases hw.2 n hn⟩
      have hturned := r.turned s.size capacity p.receiving p.queue
      generalize r.turn s.size capacity p.receiving p.queue = outcome at hturned ⊢
      cases hturned with
      | read hread => exact ⟨sent, .working ⟨hconnection, by rw [hread, hahead]⟩, hwriter' _⟩
      | @sent r' batch hreceiving hsent =>
          refine ⟨sent ++ [batch], .working ⟨hconnection, ?_⟩, (hwriter' _).push hreceiving batch⟩
          rw [Delivery.after_append, ← hsent, hahead]
      | @refused rest batch hreceiving hrest =>
          have hfails : k.Fails d sent := by
            refine h.writer.fails hreceiving fun hclosed => ?_
            rw [hsending] at hclosed
            cases hclosed
          have hcut : (s.delivery c).batches = sent ++ batch :: rest.batches := by
            rw [← hahead, hrest]
            rfl
          exact ⟨sent, .worked (w := ⟨.error (.resource .receiverGone), p.reader.connection, []⟩)
            ⟨hconnection, .cut hcut hfails rfl⟩, hwriter' _⟩
      | @ended result hended =>
          rw [hended] at hahead
          refine ⟨sent, .worked (w := ⟨result, p.reader.connection, []⟩) ⟨hconnection, ?_⟩,
            hwriter' _⟩
          rw [← hahead]
          exact .all (List.append_nil sent) rfl
  | none =>
      refine ⟨sent, h.reader.advance p.registry, ?_⟩
      refine h.writer.mono id (fun _ _ h => h) fun w hw => ⟨hw.1, fun n hn => ?_⟩
      have hgone := hw.2 n hn
      rw [sending, Bool.not_eq_false'] at hgone ⊢
      exact Party.isGone_advance hgone

theorem Consistent.sinkTurn (h : p.Consistent s k c d sent) :
    (p.sinkTurn k).Consistent s k c d sent := by
  rw [Pipeline.sinkTurn]
  cases hwork : p.writer.stage.work? with
  | some w =>
      obtain ⟨-, hwrites⟩ := (h.writer_at (Stage.work?_eq_some_iff.1 hwork)).of_working
      exact ⟨h.reader, hwrites.turn p.sending⟩
  | none => exact ⟨h.reader, h.writer.advance p.registry⟩

theorem Consistent.turn (h : p.Consistent s k c d sent) (capacity : Nat) (t : Turn) :
    ∃ sent', (p.turn s k capacity t).Consistent s k c d sent' := by
  cases t with
  | source => exact h.sourceTurn capacity
  | sink => exact ⟨sent, h.sinkTurn⟩
  | others r => exact ⟨sent, h.reader, h.writer⟩

theorem consistent_start (s : Source) (k : Sink) (r : Registry) (c d : Connection) :
    (start r c d).Consistent s k c d [] :=
  ⟨.waiting rfl, .waiting rfl⟩

theorem Consistent.foldl (h : p.Consistent s k c d sent) (capacity : Nat) (turns : List Turn) :
    ∃ sent', (turns.foldl (Pipeline.turn s k capacity) p).Consistent s k c d sent' := by
  induction turns generalizing p sent with
  | nil => exact ⟨sent, h⟩
  | cons t turns ih =>
      obtain ⟨sent', h'⟩ := h.turn capacity t
      exact ih h'

theorem consistent_run (s : Source) (k : Sink) (capacity : Nat) (r : Registry) (c d : Connection)
    (turns : List Turn) : ∃ sent, (run s k capacity r c d turns).Consistent s k c d sent :=
  (consistent_start s k r c d).foldl capacity turns

end Pipeline

end TableTransfer
