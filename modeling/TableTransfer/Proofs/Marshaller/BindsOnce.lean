import TableTransfer.Proofs.Field.Binding

namespace TableTransfer

variable {σ : Type} [ParamTarget σ]

/-- Work that binds the parameter of a column to one value, of which `P` holds, or only reports a
fault. -/
inductive BindsOnce (P : SqlValue → Prop) (c : ColumnType) : ParamM σ Unit → Prop
  | bound (x : SqlValue) (h : P x) : BindsOnce P c (c.bind x)
  | refused (e : Error) : BindsOnce P c (throw e)

def BindsValue (c : ColumnType) (work : ParamM σ Unit) : Prop :=
  BindsOnce (fun x => x.isNull = false) c work

section

variable {P Q : SqlValue → Prop} {c : ColumnType}

theorem BindsOnce.of_check {α : Type} {check : Except Error α} {work : α → ParamM σ Unit}
    (h : ∀ a, check = .ok a → BindsOnce P c (work a)) : BindsOnce P c (liftM check >>= work) := by
  cases check with
  | error e => exact .refused e
  | ok a => exact h a rfl

theorem BindsOnce.mono {work : ParamM σ Unit} (h : BindsOnce P c work) (hPQ : ∀ x, P x → Q x) :
    BindsOnce Q c work := by
  cases h with
  | bound x hx => exact .bound x (hPQ x hx)
  | refused e => exact .refused e

end

variable {field : String} {c : ColumnType} {v : Value} {work : ParamM σ Unit}

theorem MySql.write?_bindsValue (h : MySql.write? field c v = some work) : BindsValue c work := by
  simp only [MySql.write?] at h
  split at h
  · split at h <;> cases h
    exact .bound _ rfl
  · split at h <;> cases h
    exact .bound _ rfl
  · split at h
    · cases h
      exact .bound _ rfl
    · obtain ⟨max, _, rfl⟩ := Option.map_eq_some_iff.1 h
      exact .of_check fun _ _ => .bound _ rfl
  · obtain ⟨max, _, rfl⟩ := Option.map_eq_some_iff.1 h
    exact .of_check fun _ _ => .bound _ rfl
  · split at h
    · split at h <;> cases h
      · exact .refused _
      · exact .bound _ rfl
    · cases h
  · cases h

theorem Postgres.write?_bindsValue (h : Postgres.write? field c v = some work) :
    BindsValue c work := by
  simp only [Postgres.write?] at h
  split at h
  · split at h
    · cases h
      exact .bound _ rfl
    · split at h
      · split at h <;> cases h
        · exact .bound _ rfl
        · exact .refused _
      · cases h
  · cases h

theorem Oracle.write?_bindsValue (h : Oracle.write? field c v = some work) :
    BindsValue c work := by
  simp only [Oracle.write?] at h
  split at h
  · cases h
  · split at h
    · cases h
      exact .refused _
    · split at h
      · split at h <;> cases h
        exact .bound _ rfl
      · split at h <;> cases h
        exact .bound _ rfl
      · split at h <;> cases h
        exact .bound _ rfl
      · cases h

theorem SqlServer.offsetTimestampOf_isNull {text : String} {x : SqlValue}
    (h : offsetTimestampOf field text = .ok x) : x.isNull = false := by
  simp only [offsetTimestampOf] at h
  split at h
  · cases h
    rfl
  · split at h <;> cases h
    rfl

theorem SqlServer.write?_bindsValue (h : SqlServer.write? field c v = some work) :
    BindsValue c work := by
  simp only [SqlServer.write?] at h
  split at h
  · split at h
    · cases h
      exact .of_check fun x hx => .bound x (offsetTimestampOf_isNull hx)
    · split at h <;> cases h
      exact .bound _ rfl
  · split at h
    · split at h <;> cases h
      · exact .bound _ rfl
      · exact .refused _
    · cases h
  · cases h

theorem Db2.write?_bindsValue (h : Db2.write? c v = some work) : BindsValue c work := by
  simp only [Db2.write?] at h
  split at h
  · split at h <;> cases h
    exact .bound _ rfl
  · split at h <;> cases h
    exact .bound _ rfl
  · cases h

theorem Vendor.write?_bindsValue {vendor : Vendor} (h : vendor.write? field c v = some work) :
    BindsValue c work := by
  cases vendor with
  | generic => cases h
  | mysql => exact MySql.write?_bindsValue h
  | postgres => exact Postgres.write?_bindsValue h
  | oracle => exact Oracle.write?_bindsValue h
  | sqlServer => exact SqlServer.write?_bindsValue h
  | db2 => exact Db2.write?_bindsValue h

theorem Family.write_isNull {family : Family} {f : Field} {x : SqlValue}
    (h : family.write f c v = .ok x) : x.isNull = false := by
  cases family with
  | boolean | integer | bigInt | real | float | double | text | binary =>
      cases v <;> cases h <;> rfl
  | tinyInt | smallInt =>
      cases v with
      | int n =>
          simp only [write, writeSmall] at h
          split at h <;> cases h
          rfl
      | null | boolean _ | long _ | float _ | double _ | bytes _ | string _ | decimal _ | array _
      | record _ => cases h
  | date | time | timestamp | zonedTimestamp =>
      simp only [write] at h
      split at h <;> cases h
      rfl
  | numeric =>
      cases v with
      | decimal d =>
          cases h
          rfl
      | bytes b =>
          simp only [write, writeUnscaled] at h
          split at h <;> cases h
          rfl
      | null | boolean _ | int _ | long _ | float _ | double _ | string _ | array _ | record _ =>
          cases h

theorem Field.write_bindsValue (vendor : Vendor) (f : Field) (c : ColumnType) {v : Value}
    (hv : v.isNull = false) : BindsValue c (f.write vendor c v : ParamM σ Unit) := by
  cases hown : (vendor.write? f.name c v : Option (ParamM σ Unit)) with
  | some work =>
      rw [write_of_answered hv hown]
      exact Vendor.write?_bindsValue hown
  | none =>
      rw [write_of_unanswered hv hown]
      refine .of_check fun x hx => .bound x ?_
      rw [writeGeneric] at hx
      split at hx
      · exact Family.write_isNull hx
      · cases hx

theorem Field.write_bindsOnce (vendor : Vendor) (f : Field) (c : ColumnType) (v : Value) :
    BindsOnce (fun x => x.isNull = v.isNull) c (f.write vendor c v : ParamM σ Unit) := by
  cases hv : v.isNull with
  | false => exact write_bindsValue vendor f c hv
  | true =>
      obtain rfl := Value.eq_null_of_isNull hv
      cases hnullable : f.type.nullable with
      | true =>
          rw [write_null_of_nullable hnullable]
          exact .bound _ rfl
      | false =>
          rw [write_null_of_required hnullable]
          exact .refused _

end TableTransfer
