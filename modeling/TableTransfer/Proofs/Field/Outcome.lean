import TableTransfer.Proofs.Field.Binding
import TableTransfer.Proofs.Value.Whole

namespace TableTransfer

namespace Field

/-- Writing the value adds the parameter to a statement, at the number of the column. -/
def Binds (vendor : Vendor) (f : Field) (c : ColumnType) (v : Value) (p : SqlValue) : Prop :=
  ∀ s : Statement, (f.write vendor c v).runOn s =
    (.ok (), { s with params := s.params ++ [⟨c.ordinal, p⟩] })

/-- Writing the value fails with a fault of the field, and leaves a statement as it was. -/
def Rejects (vendor : Vendor) (f : Field) (c : ColumnType) (v : Value) : Prop :=
  ∃ fault, ∀ s : Statement, (f.write vendor c v).runOn s = (.error (.conversion f.name fault), s)

/-- Writing the value binds a whole number with the property, or is a fault of the field. -/
def BindsOnly (vendor : Vendor) (f : Field) (c : ColumnType) (v : Value) (P : Int → Prop) : Prop :=
  (∃ p n, f.Binds vendor c v p ∧ p.IsNumber n ∧ P n) ∨ f.Rejects vendor c v

variable {vendor : Vendor} {f : Field} {c : ColumnType} {v : Value} {p q : SqlValue}

theorem Binds.unique (hp : f.Binds vendor c v p) (hq : f.Binds vendor c v q) : p = q := by
  have heq := (hp {}).symm.trans (hq {})
  simpa using heq

theorem Binds.not_rejects (hp : f.Binds vendor c v p) : ¬f.Rejects vendor c v := by
  rintro ⟨fault, hfault⟩
  cases (hp {}).symm.trans (hfault {})

theorem Binds.bindsOnly_iff {n : Int} {P : Int → Prop} (hp : f.Binds vendor c v p)
    (hn : p.IsNumber n) : f.BindsOnly vendor c v P ↔ P n := by
  constructor
  · rintro (⟨q, m, hq, hm, hP⟩ | hrejects)
    · cases hp.unique hq
      exact hn.unique hm ▸ hP
    · exact absurd hrejects hp.not_rejects
  · exact fun hP => .inl ⟨p, n, hp, hn, hP⟩

theorem rejects_of_throw {fault : ConversionFault}
    (h : (f.write vendor c v : ParamM Statement Unit) = throw (.conversion f.name fault)) :
    f.Rejects vendor c v := by
  refine ⟨fault, fun s => ?_⟩
  rw [h]
  rfl

section

variable (hordinal : c.ordinal ≠ 0)
include hordinal

theorem binds_of_bind (h : (f.write vendor c v : ParamM Statement Unit) = c.bind p) :
    f.Binds vendor c v p := by
  intro s
  rw [h]
  exact Statement.runOn_bind s hordinal

theorem binds_of_answered (hnull : v.isNull = false)
    (h : (vendor.write? f.name c v : Option (ParamM Statement Unit)) = some (c.bind p)) :
    f.Binds vendor c v p :=
  binds_of_bind hordinal (write_of_answered hnull h)

theorem binds_of_family {family : Family} (hfamily : c.code.family? = some family)
    (hnull : v.isNull = false)
    (hnone : (vendor.write? f.name c v : Option (ParamM Statement Unit)) = none)
    (h : family.write f c v = .ok p) : f.Binds vendor c v p := by
  apply binds_of_bind hordinal
  rw [write_of_unanswered hnull hnone, writeGeneric_of_family? hfamily, h]
  rfl

end

theorem rejects_of_answered {fault : ConversionFault} (hnull : v.isNull = false)
    (h : (vendor.write? f.name c v : Option (ParamM Statement Unit)) =
      some (throw (.conversion f.name fault))) : f.Rejects vendor c v :=
  rejects_of_throw (write_of_answered hnull h)

theorem rejects_of_family {family : Family} {fault : ConversionFault}
    (hfamily : c.code.family? = some family) (hnull : v.isNull = false)
    (hnone : (vendor.write? f.name c v : Option (ParamM Statement Unit)) = none)
    (h : family.write f c v = .error (.conversion f.name fault)) : f.Rejects vendor c v := by
  have hthrow : (f.write vendor c v : ParamM Statement Unit) =
      throw (.conversion f.name fault) := by
    rw [write_of_unanswered hnull hnone, writeGeneric_of_family? hfamily, h]
    rfl
  exact rejects_of_throw hthrow

end Field

end TableTransfer
