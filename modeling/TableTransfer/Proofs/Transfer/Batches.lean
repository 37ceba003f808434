import TableTransfer.Proofs.Marshaller.Found
import TableTransfer.Proofs.Transfer.Delivery
import TableTransfer.Proofs.Transfer.Run

namespace TableTransfer

namespace Delivery

/-- Records that fill batches of one size, and a last batch that they do not fill yet. -/
structure Filling (size : Nat) (records : List Record) (full : List Batch) (pending : Batch) :
    Prop where
  length_eq : ∀ b ∈ full, b.length = size
  length_lt : pending.length < size
  flatten_eq : full.flatten ++ pending = records

/-- Records in batches of one size; only the last batch may be smaller, and none is empty. -/
structure Cut (size : Nat) (records : List Record) (batches : List Batch) : Prop where
  flatten_eq : batches.flatten = records
  ne_nil : ∀ b ∈ batches, b ≠ []
  length_le : ∀ b ∈ batches, b.length ≤ size
  length_eq : ∀ b ∈ batches.dropLast, b.length = size

section

variable {size : Nat} {batch pending : Batch} {full : List Batch} {records : List Record}

theorem length_flatten_of_length_eq (h : ∀ b ∈ full, b.length = size) :
    full.flatten.length = full.length * size := by
  rw [List.length_flatten, List.map_congr_left h, List.map_const', List.sum_replicate_nat]

theorem Filling.length_full (h : Filling size records full pending) :
    full.length = records.length / size := by
  have hpos : 0 < size := Nat.zero_lt_of_lt h.length_lt
  have hlength : full.length * size + pending.length = records.length := by
    rw [← length_flatten_of_length_eq h.length_eq, ← List.length_append, h.flatten_eq]
  rw [← hlength, Nat.mul_comm, Nat.mul_add_div hpos, Nat.div_eq_of_lt h.length_lt, Nat.add_zero]

theorem Filling.ne_nil (h : Filling size records full pending) : ∀ b ∈ full, b ≠ [] := by
  intro b hb hnil
  have hlength := h.length_eq b hb
  rw [hnil, List.length_nil] at hlength
  have hpos := Nat.zero_lt_of_lt h.length_lt
  omega

theorem Filling.cut (h : Filling size records full pending) :
    Cut size records (full ++ (if pending.isEmpty then none else some pending).toList) := by
  have hfull : ∀ b ∈ full, b.length ≤ size := fun b hb => Nat.le_of_eq (h.length_eq b hb)
  cases pending with
  | nil =>
      have hflatten := h.flatten_eq
      rw [List.append_nil] at hflatten
      rw [List.isEmpty_nil, if_pos rfl, Option.toList_none, List.append_nil]
      exact ⟨hflatten, h.ne_nil, hfull, fun b hb => h.length_eq b (List.dropLast_subset _ hb)⟩
  | cons record pending =>
      change Cut size records (full ++ [record :: pending])
      refine ⟨?_, ?_, ?_, ?_⟩
      · rw [List.flatten_append, List.flatten_singleton, h.flatten_eq]
      · exact List.forall_mem_append.2
          ⟨h.ne_nil, List.forall_mem_singleton.2 (List.cons_ne_nil _ _)⟩
      · exact List.forall_mem_append.2
          ⟨hfull, List.forall_mem_singleton.2 (Nat.le_of_lt h.length_lt)⟩
      · rw [List.dropLast_concat]
        exact h.length_eq

theorem Filling.cons (hfull : batch.length = size) (h : Filling size records full pending) :
    Filling size (batch ++ records) (batch :: full) pending := by
  refine ⟨List.forall_mem_cons.2 ⟨hfull, h.length_eq⟩, h.length_lt, ?_⟩
  rw [List.flatten_cons, List.append_assoc, h.flatten_eq]

/-- After records that could be read the full batches are sent and the rest of the records is
pending. -/
theorem ofRows_append (hroom : batch.length < size) (count : Nat)
    (taken : List Record) (rows : List (Except Error Record)) :
    ∃ full pending, Filling size (batch ++ taken) full pending ∧
      ofRows size batch count (taken.map .ok ++ rows) =
        (ofRows size pending (count + taken.length) rows).after full := by
  -- That the batch has room is what each record keeps: a batch that it fills is sent at once.
  induction taken generalizing batch count with
  | nil => exact ⟨[], batch, ⟨by simp, hroom, by simp⟩, rfl⟩
  | cons record taken ih =>
      have hlength : (batch ++ [record]).length = batch.length + 1 := by simp
      have hcount : count + (record :: taken).length = count + 1 + taken.length := by
        rw [List.length_cons]
        omega
      have happend : batch ++ record :: taken = batch ++ [record] ++ taken := by simp
      rw [List.map_cons, List.cons_append, hcount, happend]
      by_cases hfull : size ≤ (batch ++ [record]).length
      · obtain ⟨full, pending, hfilling, hrows⟩ :=
          @ih [] (Nat.zero_lt_of_lt hroom) (count + 1)
        refine ⟨(batch ++ [record]) :: full, pending, hfilling.cons (by omega), ?_⟩
        rw [ofRows_of_full hfull, hrows, ← after_append]
        rfl
      · rw [ofRows_of_room hfull]
        exact ih (Nat.lt_of_not_le hfull) (count + 1)

theorem cut_ofRows (hpos : 0 < size) (records : List Record) :
    Cut size records (ofRows size [] 0 (records.map .ok)).batches := by
  obtain ⟨full, pending, hfilling, hrows⟩ := @ofRows_append size [] hpos 0 records []
  rw [List.append_nil] at hrows
  rw [hrows, ofRows_nil, ← after_append]
  simpa [after] using hfilling.cut

theorem filling_ofRows (hpos : 0 < size) (taken : List Record) (e : Error)
    (rows : List (Except Error Record)) :
    (∃ pending, Filling size taken
        (ofRows size [] 0 (taken.map .ok ++ .error e :: rows)).batches pending) ∧
      (ofRows size [] 0 (taken.map .ok ++ .error e :: rows)).result = .error e := by
  obtain ⟨full, pending, hfilling, hrows⟩ := @ofRows_append size [] hpos 0 taken (.error e :: rows)
  rw [hrows]
  refine ⟨⟨pending, ?_⟩, rfl⟩
  simpa [after, ofRows, fault] using hfilling

end

end Delivery

structure Report.SendsNothing (report : Report) (e : Error) : Prop where
  sent_eq : report.sent = []
  result_eq : report.result = .error e

namespace Source

variable {s : Source} {c : Connection} {r : Registry}

theorem size_pos (s : Source) : 0 < s.size := Nat.lt_of_lt_of_le Nat.one_pos (Nat.le_max_right ..)

theorem opened_of_fields {cur : Cursor} {fields : List Field} (hquery : c.query s.query = .ok cur)
    (h : s.fields cur.columns = .ok fields) :
    ∃ m, Marshaller.forSource s.vendor fields cur.columns = .ok m ∧ s.opened c = .ok (m, cur) := by
  obtain ⟨m, hm⟩ := Marshaller.exists_forSource s.vendor (cover_of_fields h)
  have hopened : s.opened c = .ok (m, cur) :=
    bind_eq_ok.2 ⟨cur, hquery, bind_eq_ok.2 ⟨fields, h, bind_eq_ok.2 ⟨m, hm, rfl⟩⟩⟩
  exact ⟨m, hm, hopened⟩

theorem run_of_granted (h : (r.acquire s.setup.driver s.setup.fault).1 = .ok ())
    (c : Connection) :
    (s.run r c true).sent = (s.delivery c).batches ∧
      (s.run r c true).result = outcomeOf (s.delivery c).result c.close.1 := by
  obtain ⟨hresult, -, hsent⟩ := Report.ofRun_of_granted h c fun c =>
    ⟨((s.delivery c).send true).2, c, ((s.delivery c).send true).1⟩
  exact ⟨hsent, hresult⟩

theorem sendsNothing_of_opened (h : (r.acquire s.setup.driver s.setup.fault).1 = .ok ())
    {e : Error} (hopened : s.opened c = .error e) : (s.run r c true).SendsNothing e := by
  have hdelivery : s.delivery c = .fault e := by rw [delivery, hopened]
  obtain ⟨hsent, hresult⟩ := run_of_granted h c
  rw [hdelivery] at hsent hresult
  exact ⟨hsent, hresult⟩

/-- A source whose batches are all taken sends the records of all rows in batches of its size and
counts them, unless closing reports a fault. If there is a row that cannot be read it sends the
batches that are full before the first one, and without a handle on the driver, a result or a
schema it sends nothing. -/
theorem run_sends_batches (s : Source) (r : Registry) (c : Connection) :
    (∀ e, (r.acquire s.setup.driver s.setup.fault).1 = .error e →
      (s.run r c true).SendsNothing e) ∧
    ((r.acquire s.setup.driver s.setup.fault).1 = .ok () →
      (∀ e, c.query s.query = .error e → (s.run r c true).SendsNothing e) ∧
      ∀ cur, c.query s.query = .ok cur →
        (∀ e, s.fields cur.columns = .error e → (s.run r c true).SendsNothing e) ∧
        ∀ fields, s.fields cur.columns = .ok fields →
          ∃ m, Marshaller.forSource s.vendor fields cur.columns = .ok m ∧
            (∀ records, Source.records m cur = records.map .ok →
              Delivery.Cut s.size records (s.run r c true).sent ∧
                (s.run r c true).result = outcomeOf (.ok cur.rows.length) c.close.1) ∧
            ∀ taken e rest, Source.records m cur = taken.map .ok ++ .error e :: rest →
              (∃ pending, Delivery.Filling s.size taken (s.run r c true).sent pending) ∧
                (s.run r c true).sent.length = taken.length / s.size ∧
                (s.run r c true).result = .error e) := by
  refine ⟨fun e he => ?_, fun hgranted => ⟨fun e he => ?_, fun cur hquery => ⟨fun e he => ?_, ?_⟩⟩⟩
  · obtain ⟨hresult, -, hsent⟩ := Report.ofRun_of_refused he c _
    exact ⟨hsent, hresult⟩
  · apply sendsNothing_of_opened hgranted
    rw [opened, he]
    rfl
  · apply sendsNothing_of_opened hgranted
    rw [opened, hquery]
    change (s.fields cur.columns >>= _) = _
    rw [he]
    rfl
  intro fields hfields
  obtain ⟨m, hm, hopened⟩ := opened_of_fields hquery hfields
  obtain ⟨hsent, hresult⟩ := run_of_granted hgranted c
  have hdelivery : s.delivery c = .ofRows s.size [] 0 (records m cur) := by
    rw [delivery, hopened]
  rw [hdelivery] at hsent hresult
  refine ⟨m, hm, fun read hread => ?_, fun taken e rest hread => ?_⟩
  · have hlength : read.length = cur.rows.length := by
      simpa [records, Cursor.onRows] using (congrArg List.length hread).symm
    rw [hread] at hsent hresult
    rw [hsent, hresult, Delivery.ofRows_of_read, Nat.zero_add, hlength]
    exact ⟨Delivery.cut_ofRows s.size_pos read, rfl⟩
  · obtain ⟨⟨pending, hfilling⟩, hfault⟩ := Delivery.filling_ofRows s.size_pos taken e rest
    rw [hread] at hsent hresult
    rw [hfault] at hresult
    rw [hsent]
    exact ⟨⟨pending, hfilling⟩, hfilling.length_full, hresult⟩

theorem run_sends_batches_before_text :
    ∃ report e, report = run ⟨.generic, ⟨⟨"memory", "mem", 0⟩, none⟩, "SELECT ID", none, 2⟩ {}
        { defaultResult := some
            ⟨[{ name := "ID", code := StandardType.integer.code, typeName := "INTEGER" }],
              [[.i32 1], [.i32 2], [.i32 3], [.text "four"], [.i32 5]]⟩ } true ∧
      report.sent.length = 1 ∧ report.result = .error e := by
  obtain ⟨m, hm, -, hfault⟩ :=
    (((run_sends_batches ⟨.generic, ⟨⟨"memory", "mem", 0⟩, none⟩, "SELECT ID", none, 2⟩ {}
        { defaultResult := some
            ⟨[{ name := "ID", code := StandardType.integer.code, typeName := "INTEGER" }],
              [[.i32 1], [.i32 2], [.i32 3], [.text "four"], [.i32 5]]⟩ }).2 rfl).2 _ rfl).2 _ rfl
  cases hm
  exact ⟨_, _, rfl, (hfault [_, _, _] _ _ rfl).2⟩

end Source

end TableTransfer
