import TableTransfer.Proofs.Transfer.Host
import TableTransfer.Proofs.Transfer.Writer

namespace TableTransfer

namespace Connection

/-- The answer to a call of a database held in memory, or of a channel with or without receiver. -/
def reply (c : Connection) (receiving : Bool) : Call → Except Error Unit
  | .query sql => do let _ ← c.query sql
  | .send _ => if receiving then .ok () else .error (.resource .receiverGone)
  | .tableColumns table => do let _ ← c.tableColumns table
  | .prepare sql => do let _ ← c.prepare sql
  | .bind p => if p.index = 0 then .error (.resource .noParameter) else .ok ()
  | .close => c.close.1
  | .nextRow | .execute => .ok ()

def host (c : Connection) (received : List Batch) (receiving : Bool) : Host where
  columns sql :=
    match c.query sql with
    | .ok cur => cur.columns
    | .error _ => []
  rows sql :=
    match c.query sql with
    | .ok cur => cur.onRows.map fun cur m => m.readRecord cur
    | .error _ => []
  tableColumns table :=
    match c.tableColumns table with
    | .ok columns => columns
    | .error _ => []
  received := received
  answer calls := (calls.getLast?.map (c.reply receiving)).getD (.ok ())

end Connection

/-- What the work comes to, whatever was called before. -/
def Job.Gives {α : Type} (work : Job α) (x : Except Error α) : Prop :=
  ∀ calls, (work.runOn calls).1 = x

namespace Job

variable {α β : Type} {work : Job α} {next : α → Job β}

theorem Gives.bind_ok {a : α} {y : Except Error β} (hwork : work.Gives (.ok a))
    (hnext : (next a).Gives y) : Gives (work >>= next) y := by
  intro calls
  have hresult := hwork calls
  rw [ParamM.runOn_bind]
  cases hrun : work.runOn calls with
  | mk result after =>
      rw [hrun] at hresult
      obtain rfl : result = .ok a := hresult
      exact hnext after

theorem Gives.bind_error {e : Error} (hwork : work.Gives (.error e)) :
    Gives (work >>= next) (.error e) := by
  intro calls
  have hresult := hwork calls
  rw [ParamM.runOn_bind]
  cases hrun : work.runOn calls with
  | mk result after =>
      rw [hrun] at hresult
      obtain rfl : result = .error e := hresult
      rfl

theorem gives_pure (a : α) : Gives (pure a) (.ok a) := fun _ => rfl

theorem gives_lift_bind {x : Except Error α} {f : α → Except Error β}
    (hnext : ∀ a, x = .ok a → (next a).Gives (f a)) : Gives (liftM x >>= next) (x >>= f) := by
  have hlift : Gives (liftM x) x := fun _ => rfl
  cases x with
  | error e => exact hlift.bind_error
  | ok a => exact hlift.bind_ok (hnext a rfl)

end Job

namespace Connection

variable (c : Connection) (received : List Batch) (receiving : Bool)

theorem answer_host (calls : List Call) (call : Call) :
    (c.host received receiving).answer (calls ++ [call]) = c.reply receiving call := by
  simp [host]

theorem gives_ask (call : Call) :
    ((c.host received receiving).ask call).Gives (c.reply receiving call) := by
  intro calls
  rw [Job.runOn_ask, answer_host]

theorem gives_send (batch : Batch) :
    ((c.host received receiving).send batch).Gives (c.reply receiving (.send batch)) := by
  intro calls
  rw [Job.runOn_send, answer_host]
  cases receiving <;> rfl

theorem gives_ask_bind {α β : Type} {call : Call} {data : Except Error α}
    (hreply : c.reply receiving call = data >>= fun _ => .ok ()) {next : Job β}
    {f : α → Except Error β} (hnext : ∀ a, data = .ok a → next.Gives (f a)) :
    Job.Gives ((c.host received receiving).ask call >>= fun _ => next) (data >>= f) := by
  have hask := c.gives_ask received receiving call
  rw [hreply] at hask
  cases data with
  | error e => exact hask.bind_error
  | ok a => exact hask.bind_ok (hnext a rfl)

end Connection

namespace Source

theorem gives_readRows (s : Source) (c : Connection) (received : List Batch) (receiving : Bool)
    (m : Marshaller) (batch : Batch) (count : Nat)
    (rows : List (Marshaller → Except Error Record)) :
    (s.readRows (c.host received receiving) m batch count rows).Gives
      ((Delivery.ofRows s.size batch count (rows.map fun row => row m)).send receiving).2 := by
  have hnext : ((c.host received receiving).ask .nextRow).Gives (.ok ()) :=
    c.gives_ask received receiving .nextRow
  have hsend := c.gives_send received receiving
  induction rows generalizing batch count with
  | nil =>
      rw [readRows]
      refine hnext.bind_ok ?_
      cases batch with
      | nil => cases receiving <;> exact Job.gives_pure count
      | cons record batch =>
          dsimp only [List.isEmpty_cons]
          rw [if_neg Bool.false_ne_true]
          cases receiving with
          | false => exact (hsend _).bind_error
          | true => exact (hsend _).bind_ok (Job.gives_pure count)
  | cons row rows ih =>
      rw [readRows, List.map_cons]
      refine hnext.bind_ok ?_
      cases hrow : row m with
      | error e =>
          have hresult : ((Delivery.fault e).send receiving).2 = .error e := by
            cases receiving <;> rfl
          rw [Delivery.ofRows, hresult]
          exact Job.Gives.bind_error fun _ => rfl
      | ok record =>
          refine Job.Gives.bind_ok (a := record) (fun _ => rfl) ?_
          rw [Delivery.ofRows]
          dsimp only
          split
          · cases receiving with
            | false => exact (hsend _).bind_error
            | true => exact (hsend _).bind_ok (ih [] (count + 1))
          · exact ih _ (count + 1)

theorem result_delivery (s : Source) (c : Connection) (receiving : Bool) :
    ((s.delivery c).send receiving).2 = s.opened c >>= fun opened =>
      ((Delivery.ofRows s.size [] 0 (records opened.1 opened.2)).send receiving).2 := by
  rw [delivery]
  cases s.opened c with
  | error e => cases receiving <;> rfl
  | ok opened => rfl

theorem gives_job (s : Source) (c : Connection) (received : List Batch) (receiving : Bool) :
    (s.job (c.host received receiving)).Gives ((s.delivery c).send receiving).2 := by
  rw [result_delivery, opened, bind_assoc]
  refine c.gives_ask_bind received receiving rfl fun cur hcursor => ?_
  have hcolumns : (c.host received receiving).columns s.query = cur.columns := by
    simp only [Connection.host, hcursor]
  have hrows : (c.host received receiving).rows s.query =
      cur.onRows.map fun cur m => m.readRecord cur := by
    simp only [Connection.host, hcursor]
  rw [hcolumns, hrows, bind_assoc]
  refine Job.gives_lift_bind fun fields _ => ?_
  rw [bind_assoc]
  refine Job.gives_lift_bind fun m _ => ?_
  have hread := s.gives_readRows c received receiving m [] 0
    (cur.onRows.map fun cur m => m.readRecord cur)
  rw [List.map_map] at hread
  exact hread

end Source

namespace Sink

theorem gives_bindAll (c : Connection) (received : List Batch) (receiving : Bool) {ps : List Param}
    (hps : ∀ p ∈ ps, p.index ≠ 0) : ((c.host received receiving).bindAll ps).Gives (.ok ()) := by
  induction ps with
  | nil => exact Job.gives_pure ()
  | cons p ps ih =>
      obtain ⟨hp, hps⟩ := List.forall_mem_cons.1 hps
      have hask := c.gives_ask received receiving (.bind p)
      rw [show c.reply receiving (.bind p) = .ok () from if_neg hp] at hask
      exact hask.bind_ok (ih hps)

theorem gives_writeRecords {w : Writer} (hw : w.Ready) (c : Connection) (received : List Batch)
    (receiving : Bool) (records : List Record) :
    (writeRecords (c.host received receiving) w.marshaller w.rows records).Gives
      (w.writeAll records).result := by
  induction records generalizing w with
  | nil => exact Job.gives_pure w.rows
  | cons r records ih =>
      obtain ⟨vendor, fields, hsound⟩ := hw.sound
      rw [writeRecords, Writer.writeAll, hw.write_eq, Marshaller.row]
      cases hstage : w.marshaller.stage r with
      | error e => exact Job.Gives.bind_error fun _ => rfl
      | ok ps =>
          have hexecute : ((c.host received receiving).ask .execute).Gives (.ok ()) :=
            c.gives_ask received receiving .execute
          have hrest := ih (hw.wrote [Statement.executed { params := ps }])
          exact Job.Gives.bind_ok (a := ps) (fun _ => rfl)
            ((gives_bindAll c received receiving (hsound.index_ne_zero hstage)).bind_ok
              (hexecute.bind_ok hrest))

theorem result_work (k : Sink) (c : Connection) (received : List Batch) :
    (k.work c received).result = k.writer c >>= fun w => (w.writeAll received.flatten).result := by
  rw [work]
  cases k.writer c <;> rfl

theorem gives_job (k : Sink) (c : Connection) (received : List Batch) (receiving : Bool) :
    (k.job (c.host received receiving)).Gives (k.work c received).result := by
  rw [result_work, writer, bind_assoc]
  refine Job.gives_lift_bind fun qualified _ => ?_
  rw [bind_assoc]
  refine c.gives_ask_bind received receiving rfl fun columns hcolumns => ?_
  have hcolumns : (c.host received receiving).tableColumns qualified = columns := by
    simp only [Connection.host, hcolumns]
  rw [hcolumns, bind_assoc]
  refine Job.gives_lift_bind fun _ _ => ?_
  rw [bind_assoc]
  refine Job.gives_lift_bind fun m hm => ?_
  rw [bind_assoc]
  refine Job.gives_lift_bind fun sql _ => ?_
  rw [bind_assoc]
  refine c.gives_ask_bind received receiving rfl fun prepared hprepared => ?_
  simp only [Connection.prepare, Connection.whileOpen] at hprepared
  split at hprepared <;> cases hprepared
  have hready : Writer.Ready ⟨m, { sql }, { c with prepared := c.prepared ++ [sql] }, 0⟩ :=
    ⟨⟨_, _, Marshaller.sound_forSink hm⟩, rfl⟩
  exact gives_writeRecords hready c received receiving _

theorem closings_writeAll {w : Writer} (records : List Record) :
    (w.writeAll records).connection.closings = w.connection.closings ∧
      (w.writeAll records).connection.closeFault = w.connection.closeFault := by
  induction records generalizing w with
  | nil => exact ⟨rfl, rfl⟩
  | cons r records ih =>
      rw [Writer.writeAll, Writer.write]
      rcases (w.marshaller.writeRecord r).runOn w.statement with ⟨_ | _, s⟩
      · exact ⟨rfl, rfl⟩
      · exact ih

theorem connection_of_writer {k : Sink} {c : Connection} {w : Writer} (h : k.writer c = .ok w) :
    ∃ sql, w.connection = { c with prepared := c.prepared ++ [sql] } := by
  obtain ⟨qualified, -, h⟩ := bind_eq_ok.1 h
  obtain ⟨columns, -, h⟩ := bind_eq_ok.1 h
  obtain ⟨-, -, h⟩ := bind_eq_ok.1 h
  obtain ⟨m, -, h⟩ := bind_eq_ok.1 h
  obtain ⟨sql, -, h⟩ := bind_eq_ok.1 h
  obtain ⟨⟨statement, after⟩, hprepared, h⟩ := bind_eq_ok.1 h
  cases h
  simp only [Connection.prepare, Connection.whileOpen] at hprepared
  split at hprepared <;> cases hprepared
  exact ⟨sql, rfl⟩

theorem closings_work (k : Sink) (c : Connection) (received : List Batch) :
    (k.work c received).connection.closings = c.closings ∧
      (k.work c received).connection.closeFault = c.closeFault := by
  rw [work]
  cases hw : k.writer c with
  | error e => exact ⟨rfl, rfl⟩
  | ok w =>
      obtain ⟨sql, hconnection⟩ := connection_of_writer hw
      have hkept := closings_writeAll (w := w) received.flatten
      rw [hconnection] at hkept
      exact hkept

end Sink

end TableTransfer
