import Mathlib.Tactic.ByContra
import TableTransfer.FieldReader
import TableTransfer.Inference

namespace TableTransfer

/-- The storage of the shape's values; decimals are no storage of their own. -/
def Shape.storage? : Shape → Option Physical
  | .decimal .. => none
  | s => some s.physical

theorem Value.hasShape_iff {v : Value} {s : Shape} : v.HasShape s ↔ v.physical? = s.storage? := by
  cases s with
  | decimal precision scale => cases v <;> simp [HasShape, physical?, Shape.storage?]
  | null | boolean | int | long | float | double | bytes | string | date | timeMillis
  | timeMicros | timestampMillis | timestampMicros | array _ | record _ => exact Iff.rfl

theorem Shape.physical_of_storage?_null {s : Shape} :
    s.physical = .null → s.storage? = some .null := by
  cases s <;> simp [physical, storage?]

def Family.storage? (f : Family) (s : Shape) : Option Physical :=
  match f with
  | boolean => some .boolean
  | tinyInt | smallInt | integer => some (if s.physical = .long then .long else .int)
  | bigInt | timestamp | zonedTimestamp => some .long
  | real | float => some (if s.physical = .double then .double else .float)
  | double => some .double
  | text => some .string
  | binary => some .bytes
  | date => some .int
  | time => some (if s.countsMicros then .long else .int)
  | numeric => none

theorem Shape.storage?_of_family? {s : Shape} {f : Family} (h : s.family? = some f) :
    f.storage? s = s.storage? := by
  cases s <;> cases h <;> rfl

theorem Family.storage?_of_shape? {f : Family} {c : Column} {s : Shape} (h : f.shape? c = some s) :
    f.storage? s = s.storage? := by
  cases f with
  | boolean | tinyInt | smallInt | bigInt | real | float | double | text | binary | date =>
      cases h
      rfl
  | integer => cases h; cases c.signed <;> rfl
  | numeric =>
      simp only [shape?, Shape.decimalOf?] at h
      split at h <;> cases h
      rfl
  | time =>
      cases h
      simp only [Shape.timeOf]
      split <;> rfl
  | timestamp | zonedTimestamp =>
      cases h
      simp only [Shape.timestampOf]
      split <;> rfl

theorem TypeCode.ne_of_family? {code other : TypeCode} {family : Family}
    (h : code.family? = some family) (hother : other.family? = none) : code ≠ other := by
  rintro rfl
  rw [hother] at h
  cases h

namespace Family

theorem forall_storage?_iff {code : TypeCode} {s : Shape} {p : Family → Bool}
    (h : ∀ f : Family, f.storage? s = s.storage? ↔ p f = false) :
    (∀ f, code.family? = some f → f.storage? s = s.storage?) ↔ code.family?.any p = false := by
  cases code.family? with
  | none => simp
  | some f => simp [h]

theorem storage?_bytes (f : Family) :
    f.storage? .bytes = Shape.bytes.storage? ↔ (f != .binary) = false := by
  cases f <;> simp [storage?, Shape.storage?, Shape.physical, Shape.countsMicros]

theorem storage?_string (f : Family) :
    f.storage? .string = Shape.string.storage? ↔ (f != .text) = false := by
  cases f <;> simp [storage?, Shape.storage?, Shape.physical, Shape.countsMicros]

theorem storage?_double (f : Family) :
    f.storage? .double = Shape.double.storage? ↔
      decide (f ∉ [.real, .float, .double]) = false := by
  cases f <;> simp [storage?, Shape.storage?, Shape.physical, Shape.countsMicros]

end Family

/-- Reading succeeds with a missing value or one that is stored so, or it fails. -/
def ReadsAs (k : Option Physical) (r : Except Error Value) : Prop :=
  ∀ v, r = .ok v → v = .null ∨ v.physical? = k

theorem ReadsAs.ofRead {α : Type} {make : α → Value} {k : Option Physical}
    {r : Except Error (Option α)} (hmake : ∀ a, (make a).physical? = k) :
    ReadsAs k (Value.ofRead make r) := by
  intro v hv
  match r, hv with
  | .ok none, hv =>
      cases hv
      exact .inl rfl
  | .ok (some a), hv =>
      cases hv
      exact .inr (hmake a)

theorem Value.physical?_ofTime (s : Shape) (t : Time) :
    (ofTime s.timeUnit t).physical? = some (if s.countsMicros then .long else .int) := by
  rw [Shape.timeUnit]
  cases s.countsMicros <;> rfl

theorem Cursor.timestampAs_readsAs (cur : Cursor) (s : Shape) (index : Nat) :
    ReadsAs (some .long) (cur.timestampAs s index) :=
  .ofRead fun _ => rfl

theorem Cursor.roundedDecimal_readsAs (cur : Cursor) (scale index : Nat) :
    ReadsAs none (cur.roundedDecimal scale index) :=
  .ofRead fun _ => rfl

theorem Decimal.atScale_readsAs (field : String) (scale : Nat) (d : Decimal) :
    ReadsAs none (d.atScale field scale) := by
  intro v hv
  simp only [atScale] at hv
  split at hv <;> cases hv
  exact .inr rfl

namespace Family

theorem read_readsAs (f : Family) (cur : Cursor) (field : Field) (index : Nat) :
    ReadsAs (f.storage? field.type.shape) (f.read cur field index) := by
  cases f with
  | boolean | bigInt | double | text | binary | date => exact .ofRead fun _ => rfl
  | tinyInt | smallInt | integer | real | float =>
      simp only [read, storage?]
      split <;> exact .ofRead fun _ => rfl
  | time => exact .ofRead (Value.physical?_ofTime field.type.shape)
  | timestamp => exact cur.timestampAs_readsAs _ _
  | zonedTimestamp => exact .ofRead fun _ => rfl
  | numeric =>
      intro v hv
      change (cur.decimal index >>= _) = _ at hv
      match cur.decimal index, field.type.shape.decimalScale?, hv with
      | .ok none, _, hv =>
          cases hv
          exact .inl rfl
      | .ok (some d), none, hv =>
          cases hv
          exact .inr rfl
      | .ok (some d), some scale, hv => exact d.atScale_readsAs field.name scale v hv

def sample : Family → SqlValue
  | boolean => .bool true
  | tinyInt | smallInt | integer | bigInt => .i64 1
  | real | float | double => .f64 ⟨0⟩
  | numeric => .decimal (.ofInt64 1)
  | text => .text ""
  | binary => .bytes []
  | date => .date ⟨0, by decide, by decide⟩
  | time => .time .midnight
  | timestamp | zonedTimestamp => .timestamp ⟨⟨0, by decide, by decide⟩, .midnight⟩

theorem read_sample (f : Family) (field : Field)
    (hplaces : f = numeric → field.type.shape.decimalScale? = none) :
    ∃ v, f.read (.single [] [f.sample]) field 1 = .ok v ∧ v ≠ .null := by
  cases f with
  | boolean | bigInt | double | text | binary | date | timestamp | zonedTimestamp =>
      exact ⟨_, rfl, Value.noConfusion⟩
  | tinyInt | smallInt | integer | real | float =>
      simp only [read]
      split <;> exact ⟨_, rfl, Value.noConfusion⟩
  | time =>
      refine ⟨Value.ofTime field.type.shape.timeUnit .midnight, rfl, ?_⟩
      cases field.type.shape.timeUnit <;> exact Value.noConfusion
  | numeric =>
      refine ⟨.decimal (.ofInt64 1), ?_, Value.noConfusion⟩
      simp only [read]
      rw [hplaces rfl]
      rfl

end Family

namespace Field

variable {vendor : Vendor} {f : Field} {cur : Cursor} {c : ColumnType} {v : Value}

theorem read_eq_ok :
    f.read vendor cur c = .ok v ↔
      (vendor.read? cur f.type.shape c).getD (f.readGeneric cur c) = .ok v ∧
        (v = .null → f.type.nullable = true ∨ f.type.shape.physical = .null) := by
  rw [read]
  cases (vendor.read? cur f.type.shape c).getD (f.readGeneric cur c) with
  | error e => simp [Except.bind]
  | ok w => cases w <;> simp [Except.bind, requireValue, Value.isNull] <;> grind

theorem readGeneric_of_family? {family : Family} (h : c.code.family? = some family) :
    f.readGeneric cur c = family.read cur f c.ordinal := by
  rw [readGeneric, h]
  rfl

theorem readGeneric_readsAs (h : c.code.family? = none) :
    ReadsAs f.type.shape.storage? (f.readGeneric cur c) := by
  rw [readGeneric, h, Option.none_or]
  cases hshape : f.type.shape.family? with
  | some family =>
      rw [← Shape.storage?_of_family? hshape]
      exact family.read_readsAs cur f c.ordinal
  | none =>
      intro v hv
      simp only at hv
      split at hv <;> cases hv
      exact .inl rfl

end Field

namespace Column

/-- Fields of the shape read values of one storage from the column, and where it is not that of
the shape, some row has such a value. -/
structure Reads (vendor : Vendor) (c : Column) (s : Shape) (k : Option Physical) : Prop where
  only (f : Field) (ordinal : Nat) (cur : Cursor) : f.type.shape = s →
    ReadsAs k (f.read vendor cur (c.columnType ordinal))
  other (f : Field) : f.type.shape = s → k ≠ s.storage? →
    ∃ ordinal cur v, f.read vendor cur (c.columnType ordinal) = .ok v ∧ v ≠ .null

namespace Reads

variable {vendor : Vendor} {c : Column} {s : Shape}

theorem of_kept
    (hown : ∀ ordinal cur r, vendor.read? cur s (c.columnType ordinal) = some r →
      ReadsAs s.storage? r)
    (hfamily : ∀ ordinal cur family, vendor.read? cur s (c.columnType ordinal) = none →
      c.code.family? = some family → family.storage? s = s.storage?) :
    c.Reads vendor s s.storage? where
  only f ordinal cur hshape v hv := by
    obtain rfl := hshape
    obtain ⟨hv, -⟩ := Field.read_eq_ok.1 hv
    cases hread : vendor.read? cur f.type.shape (c.columnType ordinal) with
    | some r =>
        rw [hread] at hv
        exact hown ordinal cur r hread v hv
    | none =>
        rw [hread] at hv
        cases hcode : c.code.family? with
        | none => exact Field.readGeneric_readsAs hcode v hv
        | some family =>
            rw [← hfamily ordinal cur family hread hcode]
            rw [Option.getD_none, Field.readGeneric_of_family? hcode] at hv
            exact family.read_readsAs cur f ordinal v hv
  other _ _ h := absurd rfl h

theorem of_family {family : Family}
    (hnone : ∀ ordinal cur, vendor.read? cur s (c.columnType ordinal) = none)
    (hcode : c.code.family? = some family) : c.Reads vendor s (family.storage? s) where
  only f ordinal cur hshape v hv := by
    obtain rfl := hshape
    obtain ⟨hv, -⟩ := Field.read_eq_ok.1 hv
    rw [hnone, Option.getD_none, Field.readGeneric_of_family? hcode] at hv
    exact family.read_readsAs cur f ordinal v hv
  other f hshape hne := by
    obtain rfl := hshape
    have hplaces : family = .numeric → f.type.shape.decimalScale? = none := by
      rintro rfl
      revert hne
      cases f.type.shape <;> simp [Family.storage?, Shape.storage?, Shape.decimalScale?]
    obtain ⟨v, hv, hnull⟩ := family.read_sample f hplaces
    refine ⟨1, .single [] [family.sample], v, Field.read_eq_ok.2 ⟨?_, fun h => absurd h hnull⟩,
      hnull⟩
    rw [hnone, Option.getD_none, Field.readGeneric_of_family? hcode]
    exact hv

theorem of_unanswered (vendor : Vendor) (c : Column) (s : Shape)
    (hnone : ∀ ordinal cur, vendor.read? cur s (c.columnType ordinal) = none) :
    ∃ k, c.Reads vendor s k ∧
      (k = s.storage? ↔ ∀ family, c.code.family? = some family →
        family.storage? s = s.storage?) := by
  cases hcode : c.code.family? with
  | none =>
      refine ⟨s.storage?, of_kept (fun ordinal cur r hr => ?_) (fun _ _ _ _ h => ?_), ?_⟩
      · rw [hnone] at hr
        cases hr
      · rw [hcode] at h
        cases h
      · simp
  | some family => exact ⟨_, of_family hnone hcode, by simp⟩

theorem only_of_answered {k : Option Physical}
    (hsome : ∀ ordinal cur, ∃ r, vendor.read? cur s (c.columnType ordinal) = some r ∧ ReadsAs k r)
    (f : Field) (ordinal : Nat) (cur : Cursor) (hshape : f.type.shape = s) :
    ReadsAs k (f.read vendor cur (c.columnType ordinal)) := by
  intro v hv
  obtain rfl := hshape
  obtain ⟨hv, -⟩ := Field.read_eq_ok.1 hv
  obtain ⟨r, hr, hreads⟩ := hsome ordinal cur
  rw [hr] at hv
  exact hreads v hv

theorem of_answered
    (hsome : ∀ ordinal cur, ∃ r, vendor.read? cur s (c.columnType ordinal) = some r ∧
      ReadsAs s.storage? r) : c.Reads vendor s s.storage? where
  only := only_of_answered hsome
  other _ _ h := absurd rfl h

theorem of_other {k : Option Physical} (ordinal : Nat) (cur : Cursor) {v : Value}
    (hsome : ∀ ordinal cur, ∃ r, vendor.read? cur s (c.columnType ordinal) = some r ∧ ReadsAs k r)
    (hread : vendor.read? cur s (c.columnType ordinal) = some (.ok v)) (hnull : v ≠ .null) :
    c.Reads vendor s k where
  only := only_of_answered hsome
  other f hshape _ := by
    obtain rfl := hshape
    refine ⟨ordinal, cur, v, Field.read_eq_ok.2 ⟨?_, fun h => absurd h hnull⟩, hnull⟩
    rw [hread]
    rfl

theorem hasShape_iff {k : Option Physical} {t : UniversalType} (h : c.Reads vendor t.shape k) :
    (∀ name ordinal cur v,
      Field.read vendor ⟨name, t⟩ cur (c.columnType ordinal) = .ok v →
        (v = .null ∧ t.nullable = true) ∨ v.HasShape t.shape) ↔ k = t.shape.storage? := by
  constructor
  · intro hall
    by_contra hne
    obtain ⟨ordinal, cur, v, hv, hnull⟩ := h.other ⟨"", t⟩ rfl hne
    have hk := (h.only ⟨"", t⟩ ordinal cur rfl v hv).resolve_left hnull
    obtain ⟨rfl, -⟩ | hshape := hall "" ordinal cur v hv
    · exact hnull rfl
    · exact hne (hk.symm.trans (Value.hasShape_iff.1 hshape))
  · rintro rfl name ordinal cur v hv
    rw [Value.hasShape_iff]
    obtain rfl | hk := h.only ⟨name, t⟩ ordinal cur rfl v hv
    · obtain hnullable | hphysical := (Field.read_eq_ok.1 hv).2 rfl
      · exact .inl ⟨rfl, hnullable⟩
      · exact .inr (Shape.physical_of_storage?_null hphysical).symm
    · exact .inr hk

end Reads

end Column

end TableTransfer
