import TableTransfer.Proofs.Field.Cell
import TableTransfer.Proofs.Field.Marshalled

namespace TableTransfer

theorem Shape.physical_eq_null_iff {s : Shape} : s.physical = .null ↔ s = .null := by
  cases s <;> simp [physical]

theorem Shape.hasParts_of_family? {s : Shape} (hfamily : s.family? = none) (hs : s ≠ .null) :
    s.hasParts = true := by
  cases s with
  | null => exact absurd rfl hs
  | array _ | record _ => rfl
  | boolean | int | long | float | double | bytes | string | date | timeMillis | timeMicros
  | timestampMillis | timestampMicros | decimal _ _ => cases hfamily

theorem Cursor.exists_value (i : Nat) (p : SqlValue) : ∃ cur : Cursor, cur.value (i + 1) = .ok p :=
  ⟨.single [] (List.replicate (i + 1) p), by simp [value, current?, single, cell?]⟩

namespace Field

section

variable {vendor : Vendor} {f : Field} {cur : Cursor} {c : ColumnType} {hint : NullHint}

theorem found_of_null (hcell : cur.value c.ordinal = .ok (.null hint)) :
    f.found vendor cur c = .ok .null ∨
      f.type.shape.hasParts = true ∧ ∀ cur', f.found vendor cur' c =
        .error (.conversion f.name (.noReader c.typeName c.name f.type.shape.displayName)) := by
  rcases found_cases vendor f cur c with hreads | ⟨-, hnull⟩ | ⟨hshape, hfamily, hnone⟩
  · exact .inl (hreads.null_iff.2 ⟨hint, hcell⟩)
  · exact .inl hnull
  · exact .inr ⟨Shape.hasParts_of_family? hfamily hshape, hnone⟩

theorem read_of_found {v : Value} (h : f.found vendor cur c = .ok v) :
    f.read vendor cur c = f.requireValue c v := by
  change (f.found vendor cur c).bind _ = _
  rw [h]
  rfl

theorem read_null_of_nullable (hnullable : f.type.nullable = true)
    (hcell : cur.value c.ordinal = .ok (.null hint)) :
    f.read vendor cur c = .ok .null ∨ ∀ cur', f.read vendor cur' c =
      .error (.conversion f.name (.noReader c.typeName c.name f.type.shape.displayName)) := by
  rcases found_of_null hcell with hfound | ⟨-, hnone⟩
  · rw [read_of_found hfound, requireValue_null, hnullable]
    exact .inl rfl
  · exact .inr fun cur' => read_eq_error.2 (.inl (hnone cur'))

theorem exists_null_of_refused {field column : String}
    (h : f.read vendor cur c = .error (.conversion field (.nullInColumn column))) :
    ∃ hint, cur.value c.ordinal = .ok (.null hint) := by
  rcases found_cases vendor f cur c with hreads | ⟨hshape, hnull⟩ | ⟨-, -, hnone⟩
  · rcases read_eq_error.1 h with hfound | ⟨hfound, -⟩
    · cases hreads.fault hfound
    · exact hreads.null_iff.1 hfound
  · rcases read_eq_error.1 h with hfound | ⟨-, -, hphysical, -⟩
    · rw [hnull] at hfound
      cases hfound
    · exact absurd (Shape.physical_eq_null_iff.2 hshape) hphysical
  · rw [read_eq_error.2 (.inl (hnone cur))] at h
    cases h

theorem read_of_null (hparts : f.type.shape.hasParts = false)
    (hcell : cur.value c.ordinal = .ok (.null hint)) :
    f.read vendor cur c = f.requireValue c .null := by
  rcases found_of_null hcell with hfound | ⟨htrue, -⟩
  · exact read_of_found hfound
  · rw [hparts] at htrue
    cases htrue

end

/-- NULL in the column and the missing value of the field go together: reading gives the missing
value or a fault of the field, what is read as missing is written as one NULL of the column's type,
and where reading refuses, writing refuses too. -/
structure KeepsNull (vendor : Vendor) (f : Field) (c : ColumnType) : Prop where
  reads (cur : Cursor) (hint : NullHint) : cur.value c.ordinal = .ok (.null hint) →
    f.read vendor cur c = .ok .null ∨
      ∃ fault, f.read vendor cur c = .error (.conversion f.name fault)
  writes (cur : Cursor) : f.read vendor cur c = .ok .null → ∀ s : Statement,
    (f.write vendor c .null).runOn s =
      (.ok (), { s with params := s.params ++ [⟨c.ordinal, .null (.ofCode c.code)⟩] })
  refuses (cur : Cursor) (hint : NullHint) (e : Error) :
    cur.value c.ordinal = .ok (.null hint) → f.read vendor cur c = .error e →
    ∃ fault, ∀ s : Statement,
      (f.write vendor c .null).runOn s = (.error (.conversion f.name fault), s)

variable {vendor : Vendor} {f : Field} {c : Column}

theorem keepsNull_of_nullable (hparts : f.type.shape.hasParts = false)
    (hnullable : f.type.nullable = true) (i : Nat) :
    f.KeepsNull vendor (c.columnType (i + 1)) where
  reads cur hint hcell := by
    rw [read_of_null hparts hcell, requireValue_null, hnullable]
    exact .inl rfl
  writes cur _ s := by
    rw [write_null_of_nullable hnullable]
    exact Statement.runOn_bind s (Nat.succ_ne_zero i)
  refuses cur hint e hcell he := by
    rw [read_of_null hparts hcell, requireValue_null, hnullable] at he
    cases he

theorem keepsNull_of_required (hparts : f.type.shape.hasParts = false)
    (hnullable : f.type.nullable = false) (hshape : f.type.shape ≠ .null) (c : ColumnType) :
    f.KeepsNull vendor c where
  reads cur hint hcell := by
    rw [read_of_null hparts hcell, requireValue_null]
    split
    · exact .inr ⟨_, rfl⟩
    · exact .inl rfl
  writes cur hread := by
    rcases (read_eq_ok.1 hread).2 rfl with htrue | hnull
    · rw [hnullable] at htrue
      cases htrue
    · exact absurd (Shape.physical_eq_null_iff.1 hnull) hshape
  refuses cur hint e _ _ := by
    rw [write_null_of_required hnullable]
    exact ⟨.nullForField, fun _ => rfl⟩

/-- Fields keep NULL just if they are nullable or of another shape than the one that is always
missing: a field that is always missing and yet not nullable is read, and cannot be written. -/
theorem keepsNull_iff (hparts : f.type.shape.hasParts = false) (i : Nat) :
    f.KeepsNull vendor (c.columnType (i + 1)) ↔
      (f.type.shape = .null → f.type.nullable = true) := by
  constructor
  · intro hkeeps hshape
    by_contra hnullable
    rw [Bool.not_eq_true] at hnullable
    obtain ⟨cur, hcell⟩ := Cursor.exists_value i (.null .other)
    have hread : f.read vendor cur (c.columnType (i + 1)) = .ok .null := by
      rw [read_of_null hparts hcell, requireValue_null, hshape]
      simp [Shape.physical]
    have hwrite := hkeeps.writes cur hread {}
    rw [write_null_of_required hnullable] at hwrite
    cases hwrite
  · intro h
    cases hnullable : f.type.nullable with
    | true => exact keepsNull_of_nullable hparts hnullable i
    | false =>
        apply keepsNull_of_required hparts hnullable
        intro hshape
        rw [h hshape] at hnullable
        cases hnullable

theorem keepsNull_local_timestamp :
    Shape.hasParts .timestampMicros = false ∧
      KeepsNull .oracle ⟨"SEEN", ⟨.timestampMicros, false⟩⟩
        (Column.columnType { name := "SEEN", code := Oracle.localTimestamp, typeName := "TIMESTAMP" }
          1) := by
  have hparts : Shape.hasParts .timestampMicros = false := rfl
  refine ⟨hparts, (keepsNull_iff (f := ⟨"SEEN", ⟨.timestampMicros, false⟩⟩) hparts 0).2 ?_⟩
  intro h
  cases h

/-- A field that is always missing reads NULL, and refuses to write it. -/
theorem null_read_not_written :
    Field.read .generic ⟨"X", ⟨.null, false⟩⟩ (.single [] [.null .i32])
        (Column.columnType { name := "X", code := StandardType.integer.code, typeName := "INTEGER" }
          1) = .ok .null ∧
      (Field.write .generic ⟨"X", ⟨.null, false⟩⟩
        (Column.columnType { name := "X", code := StandardType.integer.code, typeName := "INTEGER" }
          1) .null).runOn ({} : Statement) = (.error (.conversion "X" .nullForField), {}) :=
  ⟨rfl, rfl⟩

end Field

end TableTransfer
