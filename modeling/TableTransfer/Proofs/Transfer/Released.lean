import TableTransfer.Proofs.Registry.Counting
import TableTransfer.Proofs.Transfer.MemoryHost

namespace TableTransfer

namespace Registry

variable {r s : Registry} {d : Driver}

theorem handleCount_eq (r : Registry) (id : String) :
    r.handleCount id = ((r.find? id).map Registration.handles).getD 0 := by
  rw [handleCount]
  cases r.find? id <;> rfl

theorem Granted.exists_find? (h : Granted r d s) :
    ∃ g, s.find? d.id = some g ∧ g.handles = r.handleCount d.id + 1 := by
  rw [handleCount_eq]
  cases h with
  | @counted g hg => exact ⟨_, (find?_update hg d.id).trans (if_pos rfl), by rw [hg]; rfl⟩
  | registered hnone => exact ⟨_, (find?_register hnone _ d.id).trans (if_pos rfl), by rw [hnone]; rfl⟩

theorem Returned.handleCount_eq {id : String} (h : Returned r id s) :
    s.handleCount id = r.handleCount id - 1 := by
  rw [Registry.handleCount_eq, Registry.handleCount_eq]
  cases h with
  | unknown hnone =>
      rw [hnone]
      rfl
  | counted hg hmore =>
      rw [find?_update hg, if_pos rfl, hg]
      rfl
  | deregistered hg hlast =>
      rw [find?_deregister, if_pos rfl, hg]
      exact (Nat.sub_eq_zero_of_le hlast).symm

theorem Granted.handleCount_release (h : Granted r d s) (id : String) :
    (s.release d.id).handleCount id = r.handleCount id := by
  have hreturned := s.release_returned d.id
  by_cases hid : id = d.id
  · subst hid
    obtain ⟨g, hg, hhandles⟩ := h.exists_find?
    have hcount : s.handleCount d.id = g.handles := by
      rw [Registry.handleCount_eq, hg]
      rfl
    rw [hreturned.handleCount_eq, hcount, hhandles, Nat.add_sub_cancel]
  · rw [Registry.handleCount_eq, Registry.handleCount_eq, (hreturned.frame hid).1, (h.frame hid).1]

end Registry

/-- What holds when a run ends, whatever has failed in it. -/
structure Host.Settled (h : Host) (setup : DriverSetup) (r : Registry) (work : Job Nat) : Prop where
  closed_once : ∃ calls, (h.run setup r work).calls = calls ++ [.close] ∧ Call.close ∉ calls
  handleCount_eq (id : String) : (h.run setup r work).registry.handleCount id = r.handleCount id
  ok_iff (n : Nat) : (h.run setup r work).result = .ok n ↔
    (r.acquire setup.driver setup.fault).1 = .ok () ∧ (work.runOn []).1 = .ok n ∧
      h.answer (h.run setup r work).calls = .ok ()
  of_refused {e : Error} : (r.acquire setup.driver setup.fault).1 = .error e →
    (h.run setup r work).result = .error e ∧ (h.run setup r work).calls = [.close]
  of_failed {e : Error} : (r.acquire setup.driver setup.fault).1 = .ok () →
    (work.runOn []).1 = .error e → (h.run setup r work).result = .error e
  of_not_closed {n : Nat} {e : Error} : (r.acquire setup.driver setup.fault).1 = .ok () →
    (work.runOn []).1 = .ok n → h.answer (h.run setup r work).calls = .error e →
      (h.run setup r work).result = .error e

namespace Host

variable {h : Host} {setup : DriverSetup} {r s : Registry} {work : Job Nat}

theorem run_of_refused {e : Error} (hrefused : r.acquire setup.driver setup.fault = (.error e, r))
    (work : Job Nat) : h.run setup r work = ⟨.error e, r, [.close]⟩ := by
  rw [run, hrefused]
  rfl

theorem run_of_granted (hgranted : r.acquire setup.driver setup.fault = (.ok (), s))
    (work : Job Nat) :
    h.run setup r work =
      ⟨outcomeOf (work.runOn []).1 (h.answer ((work.runOn []).2 ++ [.close])),
        s.release setup.driver.id, (work.runOn []).2 ++ [.close]⟩ := by
  rw [run, hgranted]
  rfl

theorem outcomeOf_eq_ok_iff {worked : Except Error Nat} {closed : Except Error Unit} {n : Nat} :
    outcomeOf worked closed = .ok n ↔ worked = .ok n ∧ closed = .ok () := by
  cases worked <;> cases closed <;> simp [outcomeOf]

theorem settled (hopen : work.KeepsOpen) (h : Host) (setup : DriverSetup) (r : Registry) :
    h.Settled setup r work := by
  rcases r.acquire_granted_or_refused setup.driver setup.fault with ⟨s, hs, hgranted⟩ | ⟨e, he⟩
  · have hrun := h.run_of_granted hs work
    obtain ⟨calls, hcalls, hclose⟩ := hopen []
    rw [List.nil_append] at hcalls
    refine ⟨?_, fun id => ?_, fun n => ?_, fun hrefused => ?_, fun _ hfailed => ?_, ?_⟩
    · exact ⟨calls, by rw [hrun, hcalls], hclose⟩
    · rw [hrun]
      exact hgranted.handleCount_release id
    · rw [hrun, hs]
      exact outcomeOf_eq_ok_iff.trans (and_iff_right rfl).symm
    · rw [hs] at hrefused
      cases hrefused
    · rw [hrun, hfailed]
      rfl
    · intro n e _ hworked hclosed
      rw [hrun] at hclosed ⊢
      rw [hworked, hclosed]
      rfl
  · have hrun := h.run_of_refused he work
    refine ⟨?_, fun id => ?_, fun n => ?_, fun hrefused => ?_, fun hgranted => ?_, fun hgranted => ?_⟩
    · exact ⟨[], by rw [hrun]; rfl, List.not_mem_nil⟩
    · rw [hrun]
    · rw [hrun, he]
      exact iff_of_false (fun hok => by cases hok) fun hok => by cases hok.1
    · rw [he] at hrefused
      cases hrefused
      rw [hrun]
      exact ⟨rfl, rfl⟩
    · rw [he] at hgranted
      cases hgranted
    · rw [he] at hgranted
      cases hgranted

end Host

/-- A run at a database held in memory reports this ending. -/
structure Ending.Reported (ending : Ending) (c : Connection) (report : Report) : Prop where
  result_eq : report.result = ending.result
  registry_eq : report.registry = ending.registry
  closings_eq : report.connection.closings = c.closings + 1

/-- Work that comes to the same and neither closes the connection nor changes what closing reports
gives runs that come to the same. -/
theorem Host.reported {c : Connection} {work : Connection → Work} {job : Job Nat}
    (hgives : job.Gives (work c).result)
    (hkept : (work c).connection.closings = c.closings ∧
      (work c).connection.closeFault = c.closeFault)
    (setup : DriverSetup) (r : Registry) (received : List Batch) (receiving : Bool) :
    ((c.host received receiving).run setup r job).Reported c (Report.ofRun setup r c work) := by
  obtain ⟨hclosings, hfault⟩ := hkept
  rcases r.acquire_granted_or_refused setup.driver setup.fault with ⟨s, hs, -⟩ | ⟨e, he⟩
  · have hclosed : (work c).connection.close.1 = c.close.1 := by
      rw [Connection.close, hfault]
      rfl
    rw [Host.run_of_granted hs, Report.ofRun, hs, hgives [], c.answer_host]
    refine ⟨?_, rfl, ?_⟩
    · exact congrArg (outcomeOf (work c).result) hclosed
    · exact congrArg (· + 1) hclosings
  · rw [Host.run_of_refused he, Report.ofRun, he]
    exact ⟨rfl, rfl, rfl⟩

/-- Whatever database and channel a source or a sink works with, and whatever is answered to any
call: the connection is closed once and after all else, each driver has as many handles as before,
the run succeeds just if the handle is given, the work is done and the connection is closed without
a fault, and else the first of these faults is reported. A database held in memory is one of these
databases. -/
theorem Host.run_settled :
    (∀ (h : Host) (r : Registry) (s : Source), h.Settled s.setup r (s.job h)) ∧
      (∀ (h : Host) (r : Registry) (k : Sink), h.Settled k.setup r (k.job h)) ∧
      (∀ (s : Source) (r : Registry) (c : Connection) (receiving : Bool),
        ((c.host [] receiving).run s.setup r (s.job (c.host [] receiving))).Reported c
          (s.run r c receiving)) ∧
      ∀ (k : Sink) (r : Registry) (c : Connection) (received : List Batch),
        ((c.host received false).run k.setup r (k.job (c.host received false))).Reported c
          (k.run r c received) := by
  refine ⟨fun h r s => ?_, fun h r k => ?_, fun s r c receiving => ?_, fun k r c received => ?_⟩
  · exact settled (s.keepsOpen_job h) h s.setup r
  · exact settled (k.keepsOpen_job h) h k.setup r
  · exact reported (s.gives_job c [] receiving) ⟨rfl, rfl⟩ s.setup r [] receiving
  · exact reported (k.gives_job c received false) (k.closings_work c received) k.setup r received
      false

/-- A database that can give one row; whatever it is asked then is a fault, closing too. -/
def Host.failing : Host where
  columns _ := [{ name := "ID", code := StandardType.integer.code, typeName := "INT" }]
  rows _ := [fun _ => .ok (.ofList [("ID", .int 7)]), fun _ => .ok (.ofList [("ID", .int 8)])]
  tableColumns _ := []
  received := []
  answer calls :=
    if calls.length < 3 then .ok ()
    else .error (.resource (.other (if calls.length = 3 then "fetch" else "close") "driver"))

/-- The second row cannot be fetched, and then the connection cannot be closed without a fault. -/
theorem Host.run_settled_of_two_faults :
    let s : Source := { vendor := .generic, setup := { driver := ⟨"memory", "mem", 0⟩ },
                        query := "SELECT ID FROM T" }
    let ending := failing.run s.setup {} (s.job failing)
    ending.result = .error (.resource (.other "fetch" "driver")) ∧
      failing.answer ending.calls = .error (.resource (.other "close" "driver")) ∧
      ending.registry.handleCount "memory" = 0 ∧ ending.calls.length = 4 := by
  intro s ending
  have hsettled := run_settled.1 failing {} s
  exact ⟨hsettled.of_failed rfl rfl, rfl, hsettled.handleCount_eq "memory", rfl⟩

end TableTransfer
