import TableTransfer.Proofs.Cursor.Read
import TableTransfer.Proofs.Field.Storage

namespace TableTransfer

theorem Value.exists_of_ofRead {α : Type} {make : α → Value} {r : Except Error (Option α)}
    {v : Value} (h : ofRead make r = .ok v) (hv : v ≠ .null) :
    ∃ a, r = .ok (some a) ∧ v = make a := by
  rcases r with e | _ | a
  · cases h
  · cases h
    exact absurd rfl hv
  · cases h
    exact ⟨a, rfl, rfl⟩

abbrev Getter (α : Type) := Cursor → Nat → Except Error (Option α)

/-- Fields of the shape read the column through the getter and make values of what it gives. -/
def Column.ReadsBy {α : Type} (vendor : Vendor) (c : Column) (s : Shape) (make : α → Value)
    (get : Getter α) : Prop :=
  ∀ (f : Field) (ordinal : Nat) (cur : Cursor), f.type.shape = s →
    (vendor.read? cur s (c.columnType ordinal)).getD (f.readGeneric cur (c.columnType ordinal)) =
      Value.ofRead make (get cur ordinal)

namespace Column.ReadsBy

variable {α : Type} {vendor : Vendor} {c : Column} {s : Shape} {make : α → Value} {get : Getter α}

theorem of_answered
    (h : ∀ ordinal cur, vendor.read? cur s (c.columnType ordinal) =
      some (Value.ofRead make (get cur ordinal))) : c.ReadsBy vendor s make get := by
  intro f ordinal cur _
  rw [h, Option.getD_some]

theorem of_family {family : Family} (hfamily : c.code.family? = some family)
    (hnone : ∀ ordinal cur, vendor.read? cur s (c.columnType ordinal) = none)
    (h : ∀ (f : Field) cur index, f.type.shape = s →
      family.read cur f index = Value.ofRead make (get cur index)) : c.ReadsBy vendor s make get := by
  intro f ordinal cur hshape
  rw [hnone, Option.getD_none, Field.readGeneric_of_family? hfamily]
  exact h f cur ordinal hshape

variable {f : Field} {ordinal : Nat} {cur : Cursor}

theorem read_of_given (h : c.ReadsBy vendor s make get) (hshape : f.type.shape = s) {a : α}
    (ha : get cur ordinal = .ok (some a)) (hmake : make a ≠ .null) :
    f.read vendor cur (c.columnType ordinal) = .ok (make a) := by
  apply Field.read_eq_ok.2
  constructor
  · rw [hshape, h f ordinal cur hshape, ha]
    rfl
  · intro hnull
    exact absurd hnull hmake

theorem given_of_read (h : c.ReadsBy vendor s make get) (hshape : f.type.shape = s) {x : Value}
    (hx : f.read vendor cur (c.columnType ordinal) = .ok x) (hnull : x ≠ .null) :
    ∃ a, get cur ordinal = .ok (some a) ∧ x = make a := by
  obtain ⟨hread, -⟩ := Field.read_eq_ok.1 hx
  rw [hshape, h f ordinal cur hshape] at hread
  exact Value.exists_of_ofRead hread hnull

theorem read_ne_of_refused (h : c.ReadsBy vendor s make get) (hshape : f.type.shape = s)
    {e : Error} (he : get cur ordinal = .error e) (x : Value) :
    f.read vendor cur (c.columnType ordinal) ≠ .ok x := by
  intro hx
  obtain ⟨hread, -⟩ := Field.read_eq_ok.1 hx
  rw [hshape, h f ordinal cur hshape, he] at hread
  cases hread

end Column.ReadsBy

end TableTransfer
