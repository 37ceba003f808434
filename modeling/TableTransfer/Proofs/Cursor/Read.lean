import TableTransfer.Memory.Cursor

namespace TableTransfer.Cursor

variable {α : Type} {cur : Cursor} {index : Nat} {p : SqlValue} {convert : SqlValue → Option α}

theorem read_of_error {e : Error} (he : cur.value index = .error e) (wanted : String)
    (convert : SqlValue → Option α) : cur.read index wanted convert = .error e := by
  simp only [read]
  rw [he]
  rfl

theorem read_of_null (hp : cur.value index = .ok p) (hnull : p.isNull = true) (wanted : String)
    (convert : SqlValue → Option α) : cur.read index wanted convert = .ok none := by
  simp only [read]
  rw [hp]
  exact if_pos hnull

theorem read_of_value (hp : cur.value index = .ok p) (hnull : p.isNull = false) {a : α}
    (ha : convert p = some a) (wanted : String) :
    cur.read index wanted convert = .ok (some a) := by
  simp only [read]
  rw [hp]
  change (if p.isNull = true then _ else _) = _
  rw [hnull, if_neg Bool.false_ne_true, ha]
  rfl

theorem read_of_unreadable (wanted : String) (convert : SqlValue → Option α)
    (hp : cur.value index = .ok p) (hnull : p.isNull = false) (hnone : convert p = none) :
    cur.read index wanted convert =
      .error (.conversion (cur.columnName index) (.unreadable p.kind wanted)) := by
  simp only [read]
  rw [hp]
  change (if p.isNull = true then _ else _) = _
  rw [hnull, if_neg Bool.false_ne_true, hnone]
  rfl

theorem read_eq_ok_some_iff {wanted : String} {a : α} :
    cur.read index wanted convert = .ok (some a) ↔
      ∃ p, cur.value index = .ok p ∧ p.isNull = false ∧ convert p = some a := by
  constructor
  · intro h
    cases hp : cur.value index with
    | error e =>
        rw [read_of_error hp] at h
        cases h
    | ok p =>
        cases hnull : p.isNull with
        | true =>
            rw [read_of_null hp hnull] at h
            cases h
        | false =>
            cases hconvert : convert p with
            | none =>
                rw [read_of_unreadable _ _ hp hnull hconvert] at h
                cases h
            | some b =>
                rw [read_of_value hp hnull hconvert] at h
                cases h
                exact ⟨p, rfl, hnull, hconvert⟩
  · rintro ⟨p, hp, hnull, ha⟩
    exact read_of_value hp hnull ha wanted

end TableTransfer.Cursor
