import TableTransfer.Proofs.Registry.Counting
import TableTransfer.Proofs.Transfer.Run
import TableTransfer.Transfer.Sink
import TableTransfer.Transfer.Source

namespace TableTransfer

/-- What a source or a sink asks of its connection and of its channel. -/
inductive Call where
  | query (sql : String)
  | nextRow
  | send (batch : Batch)
  | tableColumns (table : String)
  | prepare (sql : String)
  | bind (p : Param)
  | execute
  | close

/-- Work that makes calls. Those that were made before a fault remain made. -/
abbrev Job := ParamM (List Call)

/-- A database and the other end of a channel. The answer to a call, be it a fault, may depend on
all calls up to this one, which is the last of them. A row is what a marshaller makes of it. -/
structure Host where
  columns : String → List Column
  rows : String → List (Marshaller → Except Error Record)
  tableColumns : String → List Column
  received : List Batch
  answer : List Call → Except Error Unit

namespace Host

variable (h : Host)

def reply (call : Call) : Job (Except Error Unit) := do
  modify fun calls => calls ++ [call]
  return h.answer (← get)

def ask (call : Call) : Job Unit := do liftM (← h.reply call)

def send (batch : Batch) : Job Unit := do
  liftM ((← h.reply (.send batch)).mapError fun _ => Error.resource .receiverGone)

def bindAll (ps : List Param) : Job Unit := ps.forM fun p => h.ask (.bind p)

end Host

namespace Source

/-- Reads the rows that are left. `batch` is begun already and `count` rows were read. -/
def readRows (s : Source) (h : Host) (m : Marshaller) (batch : Batch) (count : Nat) :
    List (Marshaller → Except Error Record) → Job Nat
  | [] => do
    h.ask .nextRow
    if batch.isEmpty then return count
    h.send batch
    return count
  | row :: rows => do
    h.ask .nextRow
    let batch := batch ++ [← row m]
    if s.size ≤ batch.length then
      h.send batch
      readRows s h m [] (count + 1) rows
    else readRows s h m batch (count + 1) rows

def job (s : Source) (h : Host) : Job Nat := do
  h.ask (.query s.query)
  let fields ← s.fields (h.columns s.query)
  let m ← Marshaller.forSource s.vendor fields (h.columns s.query)
  s.readRows h m [] 0 (h.rows s.query)

end Source

namespace Sink

def writeRecords (h : Host) (m : Marshaller) (count : Nat) : List Record → Job Nat
  | [] => return count
  | r :: records => do
    h.bindAll (← m.stage r)
    h.ask .execute
    writeRecords h m (count + 1) records

def job (k : Sink) (h : Host) : Job Nat := do
  let qualified ← k.vendor.qualify k.schemaName k.table
  h.ask (.tableColumns qualified)
  Schema.check k.vendor .sink k.fields (h.tableColumns qualified)
  let m ← Marshaller.forSink k.vendor k.fields (h.tableColumns qualified)
  h.ask (.prepare (← insertStatement k.vendor qualified k.fields))
  writeRecords h m 0 h.received.flatten

end Sink

structure Ending where
  result : Except Error Nat
  registry : Registry
  calls : List Call

namespace Host

variable (h : Host)

/-- Closes the connection; the fault of what was done before counts first. -/
def finish (worked : Except Error Nat) (r : Registry) (calls : List Call) : Ending :=
  let (closed, calls) := (h.ask .close).runOn calls
  ⟨outcomeOf worked closed, r, calls⟩

def run (setup : DriverSetup) (r : Registry) (work : Job Nat) : Ending :=
  match r.acquire setup.driver setup.fault with
  | (.error e, r) => h.finish (.error e) r []
  | (.ok _, r) =>
    let (worked, calls) := work.runOn []
    let ending := h.finish worked r calls
    { ending with registry := ending.registry.release setup.driver.id }

end Host

/-- The calls of the work leave the connection open. -/
def Job.KeepsOpen {α : Type} (work : Job α) : Prop :=
  ∀ calls, ∃ made, (work.runOn calls).2 = calls ++ made ∧ Call.close ∉ made

namespace Job

variable {α β : Type} {h : Host}

theorem keepsOpen_pure (a : α) : KeepsOpen (pure a : Job α) := fun _ =>
  ⟨[], by simp, List.not_mem_nil⟩

theorem keepsOpen_lift (x : Except Error α) : KeepsOpen (liftM x : Job α) := fun _ =>
  ⟨[], by simp, List.not_mem_nil⟩

theorem KeepsOpen.bind {work : Job α} {next : α → Job β} (hwork : work.KeepsOpen)
    (hnext : ∀ a, (next a).KeepsOpen) : (work >>= next).KeepsOpen := by
  intro calls
  obtain ⟨made, hmade, hopen⟩ := hwork calls
  rw [ParamM.runOn_bind]
  cases hrun : work.runOn calls with
  | mk result after =>
      rw [hrun] at hmade
      cases result with
      | error e => exact ⟨made, hmade, hopen⟩
      | ok a =>
          obtain ⟨more, hmore, hmoreOpen⟩ := hnext a after
          refine ⟨made ++ more, ?_, fun hmem => ?_⟩
          · dsimp only at hmade ⊢
            rw [hmore, hmade, List.append_assoc]
          · rcases List.mem_append.1 hmem with hmem | hmem
            · exact hopen hmem
            · exact hmoreOpen hmem

theorem runOn_ask (h : Host) (call : Call) (calls : List Call) :
    (h.ask call).runOn calls = (h.answer (calls ++ [call]), calls ++ [call]) := rfl

theorem keepsOpen_ask (h : Host) {call : Call} (hcall : call ≠ .close) : (h.ask call).KeepsOpen :=
  fun calls => ⟨[call], by rw [runOn_ask], by simpa using hcall.symm⟩

theorem runOn_send (h : Host) (batch : Batch) (calls : List Call) :
    (h.send batch).runOn calls =
      ((h.answer (calls ++ [.send batch])).mapError fun _ => .resource .receiverGone,
        calls ++ [.send batch]) := rfl

theorem keepsOpen_send (h : Host) (batch : Batch) : (h.send batch).KeepsOpen :=
  fun calls => ⟨[.send batch], by rw [runOn_send], by simp⟩

theorem keepsOpen_bindAll (h : Host) (ps : List Param) : (h.bindAll ps).KeepsOpen := by
  induction ps with
  | nil => exact keepsOpen_pure _
  | cons p ps ih =>
      exact (keepsOpen_ask h fun hcall => by cases hcall).bind fun _ => ih

end Job

namespace Source

theorem keepsOpen_readRows (s : Source) (h : Host) (m : Marshaller) (batch : Batch) (count : Nat)
    (rows : List (Marshaller → Except Error Record)) :
    (s.readRows h m batch count rows).KeepsOpen := by
  induction rows generalizing batch count with
  | nil =>
      rw [readRows]
      refine (Job.keepsOpen_ask h fun hcall => by cases hcall).bind fun _ => ?_
      split
      · exact Job.keepsOpen_pure count
      · exact (Job.keepsOpen_send h batch).bind fun _ => Job.keepsOpen_pure count
  | cons row rows ih =>
      rw [readRows]
      refine (Job.keepsOpen_ask h fun hcall => by cases hcall).bind fun _ =>
        (Job.keepsOpen_lift (row m)).bind fun record => ?_
      dsimp only
      split
      · exact (Job.keepsOpen_send h _).bind fun _ => ih [] (count + 1)
      · exact ih _ (count + 1)

theorem keepsOpen_job (s : Source) (h : Host) : (s.job h).KeepsOpen :=
  (Job.keepsOpen_ask h fun hcall => by cases hcall).bind fun _ =>
    (Job.keepsOpen_lift (s.fields _)).bind fun _ =>
      (Job.keepsOpen_lift (Marshaller.forSource ..)).bind fun m =>
        s.keepsOpen_readRows h m [] 0 _

end Source

namespace Sink

theorem keepsOpen_writeRecords (h : Host) (m : Marshaller) (count : Nat) (records : List Record) :
    (writeRecords h m count records).KeepsOpen := by
  induction records generalizing count with
  | nil => exact Job.keepsOpen_pure count
  | cons r records ih =>
      exact (Job.keepsOpen_lift (m.stage r)).bind fun ps => (Job.keepsOpen_bindAll h ps).bind fun _ =>
        (Job.keepsOpen_ask h fun hcall => by cases hcall).bind fun _ => ih (count + 1)

theorem keepsOpen_job (k : Sink) (h : Host) : (k.job h).KeepsOpen :=
  (Job.keepsOpen_lift (k.vendor.qualify ..)).bind fun qualified =>
    (Job.keepsOpen_ask h fun hcall => by cases hcall).bind fun _ =>
      (Job.keepsOpen_lift (Schema.check ..)).bind fun _ =>
        (Job.keepsOpen_lift (Marshaller.forSink ..)).bind fun m =>
          (Job.keepsOpen_lift (insertStatement k.vendor qualified k.fields)).bind fun _ =>
            (Job.keepsOpen_ask h fun hcall => by cases hcall).bind fun _ =>
              keepsOpen_writeRecords h m 0 _

end Sink

end TableTransfer
