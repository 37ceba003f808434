import TableTransfer.Transfer.Source

namespace TableTransfer

namespace Cursor

def upcoming (c : Cursor) : Nat :=
  match c.position with
  | none => 0
  | some p => p + 1

/-- The cursor on each row that is still to come. -/
def ahead (c : Cursor) : List Cursor :=
  (List.range' c.upcoming (c.rows.length - c.upcoming)).map fun i => { c with position := some i }

theorem next_eq (c : Cursor) :
    c.next = (decide (c.upcoming < c.rows.length),
      { c with position := some (min c.upcoming c.rows.length) }) := rfl

theorem onRows_eq_ahead {c : Cursor} (h : c.position = none) : c.onRows = c.ahead := by
  rw [onRows, ahead, upcoming, h, List.range_eq_range', Nat.sub_zero]

theorem ahead_of_next {c after : Cursor} (h : c.next = (true, after)) :
    c.ahead = after :: after.ahead := by
  rw [next_eq, Prod.mk.injEq, decide_eq_true_iff] at h
  obtain ⟨hlt, rfl⟩ := h
  rw [Nat.min_eq_left (Nat.le_of_lt hlt)]
  obtain ⟨n, hn⟩ := Nat.exists_eq_add_of_lt hlt
  have hcount : c.rows.length - c.upcoming = n + 1 := by omega
  have hrest : c.rows.length - (c.upcoming + 1) = n := by omega
  rw [ahead, hcount, List.range'_succ, List.map_cons]
  change _ = _ :: (List.range' (c.upcoming + 1) (c.rows.length - (c.upcoming + 1))).map _
  rw [hrest]

theorem ahead_of_not_next {c after : Cursor} (h : c.next = (false, after)) : c.ahead = [] := by
  rw [next_eq, Prod.mk.injEq, decide_eq_false_iff_not, Nat.not_lt] at h
  rw [ahead, Nat.sub_eq_zero_of_le h.1]
  rfl

end Cursor

namespace Delivery

def after (batches : List Batch) (d : Delivery) : Delivery := ⟨batches ++ d.batches, d.result⟩

theorem after_nil (d : Delivery) : d.after [] = d := rfl

theorem after_append (xs ys : List Batch) (d : Delivery) :
    d.after (xs ++ ys) = (d.after ys).after xs := by
  simp only [after]
  rw [List.append_assoc]

section

variable {size : Nat} {batch : Batch} {count : Nat} {record : Record}
  {rows : List (Except Error Record)}

theorem ofRows_of_full (h : size ≤ (batch ++ [record]).length) :
    ofRows size batch count (.ok record :: rows) =
      (ofRows size [] (count + 1) rows).after [batch ++ [record]] := if_pos h

theorem ofRows_of_room (h : ¬size ≤ (batch ++ [record]).length) :
    ofRows size batch count (.ok record :: rows) =
      ofRows size (batch ++ [record]) (count + 1) rows := if_neg h

theorem ofRows_nil :
    ofRows size batch count [] =
      after (if batch.isEmpty then none else some batch).toList ⟨[], .ok count⟩ := by
  cases batch <;> rfl

theorem flatten_ofRows_nil : (ofRows size batch count []).batches.flatten = batch := by
  cases batch <;> simp [ofRows]

theorem prefix_rows (size : Nat) (batch : Batch) (count : Nat)
    (rows : List (Except Error Record)) :
    (ofRows size batch count rows).batches.flatten.map .ok <+: batch.map .ok ++ rows := by
  induction rows generalizing batch count with
  | nil => exact ⟨[], by rw [flatten_ofRows_nil]⟩
  | cons row rows ih =>
      cases row with
      | error e => exact List.nil_prefix
      | ok record =>
          by_cases h : size ≤ (batch ++ [record]).length
          · rw [ofRows_of_full h]
            have hrest := ih [] (count + 1)
            simpa [after] using hrest
          · rw [ofRows_of_room h]
            simpa using ih (batch ++ [record]) (count + 1)

/-- A delivery that succeeds leaves no row out. -/
theorem ofRows_complete {n : Nat} (h : (ofRows size batch count rows).result = .ok n) :
    (ofRows size batch count rows).batches.flatten.map .ok = batch.map .ok ++ rows ∧
      n = count + rows.length := by
  induction rows generalizing batch count with
  | nil =>
      rw [flatten_ofRows_nil, List.append_nil]
      exact ⟨rfl, (Except.ok.inj h).symm⟩
  | cons row rows ih =>
      cases row with
      | error e => cases h
      | ok record =>
          by_cases hfull : size ≤ (batch ++ [record]).length
          · rw [ofRows_of_full hfull] at h ⊢
            obtain ⟨hrows, hn⟩ := ih h
            refine ⟨?_, by rw [hn, List.length_cons]; omega⟩
            simpa [after] using hrows
          · rw [ofRows_of_room hfull] at h ⊢
            obtain ⟨hrows, hn⟩ := ih h
            refine ⟨?_, by rw [hn, List.length_cons]; omega⟩
            simpa using hrows

theorem ofRows_of_read (size : Nat) (batch : Batch) (count : Nat) (records : List Record) :
    (ofRows size batch count (records.map .ok)).result = .ok (count + records.length) := by
  induction records generalizing batch count with
  | nil => rfl
  | cons record records ih =>
      rw [List.map_cons, List.length_cons, Nat.add_comm records.length, ← Nat.add_assoc]
      by_cases h : size ≤ (batch ++ [record]).length
      · rw [ofRows_of_full h]
        exact ih [] (count + 1)
      · rw [ofRows_of_room h]
        exact ih (batch ++ [record]) (count + 1)

end

end Delivery

end TableTransfer
