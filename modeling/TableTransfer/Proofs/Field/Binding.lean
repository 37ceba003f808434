import TableTransfer.FieldWriter
import TableTransfer.Memory.Statement

namespace TableTransfer

theorem Vendor.write?_null {σ : Type} [ParamTarget σ] (vendor : Vendor) (name : String)
    (c : ColumnType) : (vendor.write? name c .null : Option (ParamM σ Unit)) = none := by
  cases vendor <;> rfl

namespace Field

variable {σ : Type} [ParamTarget σ] {vendor : Vendor} {f : Field} {c : ColumnType} {v : Value}

theorem write_null_of_nullable (h : f.type.nullable = true) :
    (f.write vendor c .null : ParamM σ Unit) = c.bind (.null (.ofCode c.code)) := by
  rw [write, Vendor.write?_null, h]
  rfl

theorem write_null_of_required (h : f.type.nullable = false) :
    (f.write vendor c .null : ParamM σ Unit) = throw (.conversion f.name .nullForField) := by
  rw [write, h]
  rfl

theorem write_of_answered {work : ParamM σ Unit} (hnull : v.isNull = false)
    (h : vendor.write? f.name c v = some work) : f.write vendor c v = work := by
  rw [write, hnull, Bool.false_and, if_neg Bool.false_ne_true, h]

theorem write_of_unanswered (hnull : v.isNull = false)
    (h : (vendor.write? f.name c v : Option (ParamM σ Unit)) = none) :
    (f.write vendor c v : ParamM σ Unit) = (do c.bind (← f.writeGeneric c v)) := by
  rw [write, hnull, Bool.false_and, if_neg Bool.false_ne_true, h, plainParam, hnull,
    if_neg Bool.false_ne_true]

theorem writeGeneric_of_family? {family : Family} (h : c.code.family? = some family) :
    f.writeGeneric c v = family.write f c v := by
  rw [writeGeneric, h]
  rfl

end Field

namespace Column

/-- Fields of the shape write the value to the column as the parameter. -/
def Writes (vendor : Vendor) (c : Column) (s : Shape) (v : Value) (p : SqlValue) : Prop :=
  ∀ (f : Field) (ordinal : Nat), f.type.shape = s →
    (f.write vendor (c.columnType ordinal) v : ParamM Statement Unit) =
      (c.columnType ordinal).bind p

def Refuses (vendor : Vendor) (c : Column) (s : Shape) (v : Value) : Prop :=
  ∀ (f : Field) (ordinal : Nat), f.type.shape = s →
    ∃ e, (f.write vendor (c.columnType ordinal) v : ParamM Statement Unit) = throw e

variable {vendor : Vendor} {c : Column} {s : Shape} {v : Value} {p : SqlValue}

namespace Writes

theorem of_answered (hnull : v.isNull = false)
    (h : ∀ name ordinal, (vendor.write? name (c.columnType ordinal) v :
      Option (ParamM Statement Unit)) = some ((c.columnType ordinal).bind p)) :
    c.Writes vendor s v p := by
  intro f ordinal _
  exact Field.write_of_answered hnull (h f.name ordinal)

theorem of_family {family : Family} (hfamily : c.code.family? = some family)
    (hnull : v.isNull = false)
    (hnone : ∀ name ordinal, (vendor.write? name (c.columnType ordinal) v :
      Option (ParamM Statement Unit)) = none)
    (h : ∀ (f : Field) (col : ColumnType), f.type.shape = s → family.write f col v = .ok p) :
    c.Writes vendor s v p := by
  intro f ordinal hshape
  rw [Field.write_of_unanswered hnull (hnone f.name ordinal),
    Field.writeGeneric_of_family? (c := c.columnType ordinal) hfamily, h f _ hshape]
  rfl

theorem runOn (h : c.Writes vendor s v p) {f : Field} (hshape : f.type.shape = s) {ordinal : Nat}
    (hordinal : ordinal ≠ 0) (statement : Statement) :
    (f.write vendor (c.columnType ordinal) v).runOn statement =
      (.ok (), { statement with params := statement.params ++ [⟨ordinal, p⟩] }) := by
  rw [h f ordinal hshape]
  exact Statement.runOn_bind statement hordinal

end Writes

namespace Refuses

theorem of_answered (hnull : v.isNull = false)
    (h : ∀ name ordinal, ∃ e, (vendor.write? name (c.columnType ordinal) v :
      Option (ParamM Statement Unit)) = some (throw e)) : c.Refuses vendor s v := by
  intro f ordinal _
  obtain ⟨e, he⟩ := h f.name ordinal
  exact ⟨e, Field.write_of_answered hnull he⟩

theorem of_family {family : Family} (hfamily : c.code.family? = some family)
    (hnull : v.isNull = false)
    (hnone : ∀ name ordinal, (vendor.write? name (c.columnType ordinal) v :
      Option (ParamM Statement Unit)) = none)
    (h : ∀ (f : Field) (col : ColumnType), f.type.shape = s → ∃ e, family.write f col v = .error e) :
    c.Refuses vendor s v := by
  intro f ordinal hshape
  obtain ⟨e, he⟩ := h f (c.columnType ordinal) hshape
  refine ⟨e, ?_⟩
  rw [Field.write_of_unanswered hnull (hnone f.name ordinal),
    Field.writeGeneric_of_family? (c := c.columnType ordinal) hfamily, he]
  rfl

theorem runOn (h : c.Refuses vendor s v) {f : Field} (hshape : f.type.shape = s) (ordinal : Nat)
    (statement : Statement) :
    ∃ e, (f.write vendor (c.columnType ordinal) v).runOn statement = (.error e, statement) := by
  obtain ⟨e, he⟩ := h f ordinal hshape
  rw [he]
  exact ⟨e, rfl⟩

end Refuses

end Column

end TableTransfer
