import TableTransfer.Proofs.Field.Cell
import TableTransfer.Proofs.Field.Storage

namespace TableTransfer

def Shape.isScalar : Shape → Bool
  | .null | .array _ | .record _ => false
  | _ => true

theorem Shape.exists_family?_of_isScalar {s : Shape} (h : s.isScalar = true) :
    ∃ family, s.family? = some family := by
  cases s with
  | null | array _ | record _ => cases h
  | boolean | int | long | float | double | bytes | string | date | timeMillis | timeMicros
  | timestampMillis | timestampMicros | decimal _ _ => exact ⟨_, rfl⟩

/-- Reading does not fail for want of a reader. -/
def HasReader (r : Except Error Value) : Prop :=
  ∀ field typeName column declared,
    r ≠ .error (.conversion field (.noReader typeName column declared))

theorem ReadsCell.hasReader {cur : Cursor} {index : Nat} {r : Except Error Value}
    (h : ReadsCell cur index r) : HasReader r := by
  intro field typeName column declared he
  cases h.fault he

theorem Field.read_hasReader {vendor : Vendor} {f : Field} {cur : Cursor} {c : ColumnType}
    (h : f.type.shape.isScalar = true) : HasReader (f.read vendor cur c) := by
  obtain ⟨family, hfamily⟩ := Shape.exists_family?_of_isScalar h
  intro field typeName column declared he
  rcases read_eq_error.1 he with hfound | ⟨-, -, -, hnull⟩
  · rcases found_cases vendor f cur c with hcell | ⟨-, hnull⟩ | ⟨-, hnone, -⟩
    · exact hcell.hasReader field typeName column declared hfound
    · rw [hnull] at hfound
      cases hfound
    · rw [hnone] at hfamily
      cases hfamily
  · cases hnull

end TableTransfer
