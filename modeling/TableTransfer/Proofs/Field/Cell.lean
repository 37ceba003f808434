import TableTransfer.FieldReader
import TableTransfer.Proofs.Cursor.Read

namespace TableTransfer

inductive CellFault : Error → Prop
  | resource (fault : ResourceFault) : CellFault (.resource fault)
  | unreadable (column kind wanted : String) :
      CellFault (.conversion column (.unreadable kind wanted))
  | losesDigits (field : String) (d : Decimal) (scale : Nat) :
      CellFault (.conversion field (.losesDigits d scale))

namespace Cursor

variable {α : Type} {cur : Cursor} {index : Nat} {wanted : String} {convert : SqlValue → Option α}

theorem value_eq_error {e : Error} (h : cur.value index = .error e) : CellFault e := by
  simp only [value] at h
  split at h
  · cases h
    exact .resource _
  · split at h <;> cases h
    exact .resource _

theorem read_eq_none_iff (cur : Cursor) (index : Nat) (wanted : String)
    (convert : SqlValue → Option α) :
    cur.read index wanted convert = .ok none ↔ ∃ hint, cur.value index = .ok (.null hint) := by
  simp only [read]
  cases hp : cur.value index with
  | error e => simp [bind, Except.bind]
  | ok p =>
      change (if p.isNull = true then _ else _) = _ ↔ _
      cases p with
      | null hint => simp [SqlValue.isNull, pure, Except.pure]
      | bool _ | i16 _ | i32 _ | i64 _ | f32 _ | f64 _ | text _ | bytes _ | uuid _ | decimal _
      | timestamp _ | zonedTimestamp _ | date _ | time _ | object _ _ =>
          simp only [SqlValue.isNull, Bool.false_eq_true, if_false]
          split <;> simp [pure, Except.pure, throw, throwThe, MonadExceptOf.throw]

theorem read_eq_error {e : Error} (h : cur.read index wanted convert = .error e) : CellFault e := by
  cases hp : cur.value index with
  | error fault =>
      rw [read_of_error hp] at h
      cases h
      exact value_eq_error hp
  | ok p =>
      cases hnull : p.isNull with
      | true =>
          rw [read_of_null hp hnull] at h
          cases h
      | false =>
          cases hconvert : convert p with
          | some a =>
              rw [read_of_value hp hnull hconvert] at h
              cases h
          | none =>
              rw [read_of_unreadable _ _ hp hnull hconvert] at h
              cases h
              exact .unreadable _ _ _

end Cursor

structure ReadsCell (cur : Cursor) (index : Nat) (r : Except Error Value) : Prop where
  null_iff : r = .ok .null ↔ ∃ hint, cur.value index = .ok (.null hint)
  fault {e : Error} : r = .error e → CellFault e

section

variable {cur : Cursor} {index : Nat}

theorem ReadsCell.ofRead {α : Type} {make : α → Value} {wanted : String}
    {convert : SqlValue → Option α} (hmake : ∀ a, make a ≠ .null) :
    ReadsCell cur index (Value.ofRead make (cur.read index wanted convert)) where
  null_iff := by
    rw [← cur.read_eq_none_iff index wanted convert]
    rcases cur.read index wanted convert with e | _ | a
    · simp [Value.ofRead, Except.map]
    · simp [Value.ofRead, Except.map]
    · simp [Value.ofRead, Except.map, hmake a]
  fault h := by
    cases hread : cur.read index wanted convert with
    | error e =>
        rw [hread] at h
        cases h
        exact Cursor.read_eq_error hread
    | ok o =>
        rw [hread] at h
        cases h

theorem ReadsCell.atScale {d : Decimal} (hread : cur.decimal index = .ok (some d)) (field : String)
    (scale : Nat) : ReadsCell cur index (d.atScale field scale) where
  null_iff := by
    rw [← cur.read_eq_none_iff index "decimal" SqlValue.asDecimal?]
    change _ ↔ cur.decimal index = _
    rw [hread, Decimal.atScale]
    split <;> simp
  fault h := by
    rw [Decimal.atScale] at h
    split at h <;> cases h
    exact .losesDigits _ _ _

end

theorem Value.ofTime_ne_null (unit : TimeUnit) (t : Time) : ofTime unit t ≠ .null := by
  cases unit <;> exact Value.noConfusion

theorem Family.read_readsCell (family : Family) (cur : Cursor) (f : Field) (index : Nat) :
    ReadsCell cur index (family.read cur f index) := by
  cases family with
  | boolean | bigInt | double | text | binary | date | timestamp | zonedTimestamp =>
      exact .ofRead fun _ => Value.noConfusion
  | tinyInt | smallInt | integer | real | float =>
      simp only [read]
      split <;> exact .ofRead fun _ => Value.noConfusion
  | time => exact .ofRead (Value.ofTime_ne_null _)
  | numeric =>
      have hplain : ReadsCell cur index (Value.ofRead .decimal (cur.decimal index)) :=
        .ofRead fun _ => Value.noConfusion
      change ReadsCell cur index (cur.decimal index >>= _)
      cases hread : cur.decimal index with
      | error e =>
          rw [hread] at hplain
          exact hplain
      | ok o =>
          rw [hread] at hplain
          cases o with
          | none => exact hplain
          | some d =>
              dsimp only [bind, Except.bind]
              cases f.type.shape.decimalScale? with
              | none => exact hplain
              | some scale => exact .atScale hread f.name scale

theorem Vendor.read?_readsCell {vendor : Vendor} {cur : Cursor} {s : Shape} {c : ColumnType}
    {r : Except Error Value} (h : vendor.read? cur s c = some r) : ReadsCell cur c.ordinal r := by
  cases vendor with
  | generic => cases h
  | mysql =>
      have hyear (r) (hr : MySql.read?.year? cur c = some r) : ReadsCell cur c.ordinal r := by
        simp only [MySql.read?.year?] at hr
        split at hr <;> cases hr
        exact .ofRead fun _ => Value.noConfusion
      simp only [read?, MySql.read?] at h
      split at h
      · split at h
        · cases h
          exact .ofRead fun _ => Value.noConfusion
        · exact hyear r h
      · obtain h | ⟨-, h⟩ := Option.or_eq_some_iff.1 h
        · exact hyear r h
        · split at h <;> cases h
          exact .ofRead fun _ => Value.noConfusion
      · obtain h | ⟨-, h⟩ := Option.or_eq_some_iff.1 h
        · exact hyear r h
        · split at h <;> cases h
          exact .ofRead fun _ => Value.noConfusion
      · exact hyear r h
  | postgres =>
      simp only [read?, Postgres.read?] at h
      repeat' split at h
      all_goals cases h
      all_goals exact .ofRead fun _ => Value.noConfusion
  | oracle =>
      simp only [read?, Oracle.read?] at h
      repeat' split at h
      all_goals cases h
      all_goals exact .ofRead fun _ => Value.noConfusion
  | sqlServer =>
      simp only [read?, SqlServer.read?] at h
      repeat' split at h
      all_goals cases h
      all_goals exact .ofRead fun _ => Value.noConfusion
  | db2 =>
      simp only [read?, Db2.read?] at h
      repeat' split at h
      all_goals cases h
      all_goals exact .ofRead fun _ => Value.noConfusion

theorem Vendor.isSome_read? (vendor : Vendor) (cur cur' : Cursor) (s : Shape) (c : ColumnType) :
    (vendor.read? cur s c).isSome = (vendor.read? cur' s c).isSome := by
  cases vendor with
  | generic => rfl
  | mysql | postgres | oracle | sqlServer | db2 =>
      simp only [read?, MySql.read?, MySql.read?.year?, Postgres.read?, Oracle.read?,
        SqlServer.read?, Db2.read?]
      repeat' split
      all_goals rfl

namespace Field

/-- What a field finds in its column, whether or not it may be missing. -/
def found (vendor : Vendor) (f : Field) (cur : Cursor) (c : ColumnType) : Except Error Value :=
  (vendor.read? cur f.type.shape c).getD (f.readGeneric cur c)

variable (vendor : Vendor) (f : Field) (cur : Cursor) (c : ColumnType)

/-- A field reads its cell, unless neither the dialect nor a family has a reader for it; then the
cell is not looked at in any row, and only the shape that is always missing is read at all. -/
theorem found_cases :
    ReadsCell cur c.ordinal (f.found vendor cur c) ∨
      (f.type.shape = .null ∧ f.found vendor cur c = .ok .null) ∨
      (f.type.shape ≠ .null ∧ f.type.shape.family? = none ∧ ∀ cur', f.found vendor cur' c =
        .error (.conversion f.name (.noReader c.typeName c.name f.type.shape.displayName))) := by
  cases hown : vendor.read? cur f.type.shape c with
  | some r =>
      rw [found, hown]
      exact .inl (Vendor.read?_readsCell hown)
  | none =>
      have hgeneric (cur') : f.found vendor cur' c = f.readGeneric cur' c := by
        have hnone := vendor.isSome_read? cur' cur f.type.shape c
        rw [hown, Option.isSome_none, Option.isSome_eq_false_iff, Option.isNone_iff_eq_none] at hnone
        rw [found, hnone, Option.getD_none]
      simp only [hgeneric, readGeneric]
      cases hfamily : c.code.family?.or f.type.shape.family? with
      | some family => exact .inl (family.read_readsCell cur f c.ordinal)
      | none =>
          obtain ⟨-, hnone⟩ := Option.or_eq_none_iff.1 hfamily
          refine .inr ?_
          dsimp only
          split
          · exact .inl ⟨by assumption, rfl⟩
          · rename_i hshape
            exact .inr ⟨hshape, hnone, fun _ => rfl⟩

variable {vendor f cur c}

theorem requireValue_null :
    f.requireValue c .null =
      if f.type.nullable = false ∧ f.type.shape.physical ≠ .null then
        .error (.conversion f.name (.nullInColumn c.name))
      else .ok .null := by
  simp [requireValue, Value.isNull]

theorem requireValue_of_value {v : Value} (h : v.isNull = false) :
    f.requireValue c v = .ok v := by
  simp [requireValue, h]

theorem read_eq_error {e : Error} :
    f.read vendor cur c = .error e ↔
      f.found vendor cur c = .error e ∨
        f.found vendor cur c = .ok .null ∧ f.type.nullable = false ∧
          f.type.shape.physical ≠ .null ∧ e = .conversion f.name (.nullInColumn c.name) := by
  change (f.found vendor cur c).bind _ = _ ↔ _
  cases f.found vendor cur c with
  | error fault => simp [Except.bind]
  | ok v =>
      change f.requireValue c v = _ ↔ _
      cases hnull : v.isNull with
      | false =>
          have hne : v ≠ .null := by
            rintro rfl
            cases hnull
          simp [requireValue_of_value hnull, hne]
      | true =>
          obtain rfl : v = .null := Value.eq_null_of_isNull hnull
          rw [requireValue_null]
          split <;> simp_all [@eq_comm _ e]

end Field

end TableTransfer
