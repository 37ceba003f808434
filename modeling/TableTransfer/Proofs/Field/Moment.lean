import TableTransfer.Proofs.Field.Getter
import TableTransfer.Proofs.Field.Inferred
import TableTransfer.Validation

namespace TableTransfer

def Shape.isMoment : Shape → Bool
  | .date | .timeMillis | .timeMicros | .timestampMillis | .timestampMicros => true
  | _ => false

namespace Cursor

def moment (cur : Cursor) (c : ColumnType) : Except Error (Option Timestamp) :=
  if c.code.is .timestampWithTimeZone then
    (cur.zonedTimestamp c.ordinal).map (Option.map OffsetTimestamp.utc)
  else cur.timestamp c.ordinal

/-- The value is what the getter of the shape's kind gives for the column, as the shape counts it. -/
inductive Encodes (cur : Cursor) (c : ColumnType) : Shape → Value → Prop
  | date {d : Date} (h : cur.date c.ordinal = .ok (some d)) : Encodes cur c .date (.ofDate d)
  | timeMillis {t : Time} (h : cur.time c.ordinal = .ok (some t)) :
      Encodes cur c .timeMillis (.ofTime .millis t)
  | timeMicros {t : Time} (h : cur.time c.ordinal = .ok (some t)) :
      Encodes cur c .timeMicros (.ofTime .micros t)
  | timestampMillis {t : Timestamp} (h : cur.moment c = .ok (some t)) :
      Encodes cur c .timestampMillis (.ofTimestamp .millis t)
  | timestampMicros {t : Timestamp} (h : cur.moment c = .ok (some t)) :
      Encodes cur c .timestampMicros (.ofTimestamp .micros t)

theorem moment_of_zone {cur : Cursor} {c : ColumnType} {t : OffsetTimestamp}
    (hcode : c.code.is .timestampWithTimeZone = true)
    (h : cur.zonedTimestamp c.ordinal = .ok (some t)) : cur.moment c = .ok (some t.utc) := by
  rw [moment, if_pos hcode, h]
  rfl

theorem moment_of_no_zone {cur : Cursor} {c : ColumnType}
    (hcode : c.code.is .timestampWithTimeZone = false) : cur.moment c = cur.timestamp c.ordinal := by
  rw [moment, hcode, if_neg Bool.false_ne_true]

/-- None of the getters takes a number for a date, a time or a moment. -/
theorem not_encodes_of_number {cur : Cursor} {c : ColumnType} {n : Int16} (s : Shape) (x : Value)
    (hp : cur.value c.ordinal = .ok (.i16 n)) : ¬cur.Encodes c s x := by
  have hmoment {t : Timestamp} : cur.moment c ≠ .ok (some t) := by
    intro h
    cases hcode : c.code.is .timestampWithTimeZone with
    | true =>
        have he :=
          read_of_unreadable "timestamp with time zone" SqlValue.asZonedTimestamp? hp rfl rfl
        rw [moment, if_pos hcode, zonedTimestamp, he] at h
        cases h
    | false =>
        have he := read_of_unreadable "timestamp" SqlValue.asTimestamp? hp rfl rfl
        rw [moment_of_no_zone hcode, timestamp, he] at h
        cases h
  intro h
  cases h with
  | date h =>
      have he := read_of_unreadable "date" SqlValue.asDate? hp rfl rfl
      cases he.symm.trans h
  | timeMillis h | timeMicros h =>
      have he := read_of_unreadable "time" SqlValue.asTime? hp rfl rfl
      cases he.symm.trans h
  | timestampMillis h | timestampMicros h => exact hmoment h

end Cursor

namespace TypeCode

theorem standard?_of_zonedTimestamp {code : TypeCode}
    (h : code.family? = some .zonedTimestamp) :
    code.standard? = some .timestampWithTimeZone := by
  obtain ⟨t, ht, hfamily⟩ := Option.bind_eq_some_iff.1 h
  rw [ht]
  cases t <;> simp_all [StandardType.family?]

theorem not_zoned_of_family? {code : TypeCode} (h : code.family? ≠ some .zonedTimestamp) :
    code.is .timestampWithTimeZone = false := by
  rw [← Bool.not_eq_true, is_iff]
  intro hcode
  apply h
  rw [family?, hcode]
  rfl

end TypeCode

/-- Whatever a row holds, fields of the shape hold what the getter of their kind gives. -/
def Column.HoldsMoments (vendor : Vendor) (c : Column) (s : Shape) : Prop :=
  ∀ (f : Field) (ordinal : Nat) (cur : Cursor) (x : Value), f.type.shape = s →
    f.read vendor cur (c.columnType ordinal) = .ok x → x ≠ .null →
      cur.Encodes (c.columnType ordinal) s x

namespace Column

variable {vendor : Vendor} {c : Column} {s : Shape}

theorem HoldsMoments.of_getter {α : Type} {make : α → Value} {get : Getter α}
    (h : c.ReadsBy vendor s make get)
    (hmake : ∀ ordinal (cur : Cursor) a, get cur ordinal = .ok (some a) →
      cur.Encodes (c.columnType ordinal) s (make a)) : c.HoldsMoments vendor s := by
  intro f ordinal cur x hshape hx hnull
  obtain ⟨a, ha, rfl⟩ := h.given_of_read hshape hx hnull
  exact hmake ordinal cur a ha

theorem HoldsMoments.of_moment {α : Type} {get : Getter α} {toTimestamp : α → Timestamp}
    (hs : s = .timestampMillis ∨ s = .timestampMicros)
    (hmoment : ∀ ordinal (cur : Cursor) a, get cur ordinal = .ok (some a) →
      cur.moment (c.columnType ordinal) = .ok (some (toTimestamp a)))
    (h : c.ReadsBy vendor s (fun a => Value.ofTimestamp s.timeUnit (toTimestamp a)) get) :
    c.HoldsMoments vendor s := by
  apply of_getter h
  intro ordinal cur a ha
  rcases hs with rfl | rfl
  · exact .timestampMillis (hmoment ordinal cur a ha)
  · exact .timestampMicros (hmoment ordinal cur a ha)

theorem HoldsMoments.of_timestamp (hs : s = .timestampMillis ∨ s = .timestampMicros)
    (hcode : c.code.is .timestampWithTimeZone = false)
    (h : c.ReadsBy vendor s (Value.ofTimestamp s.timeUnit) Cursor.timestamp) :
    c.HoldsMoments vendor s :=
  of_moment hs (fun _ _ _ ht => (Cursor.moment_of_no_zone hcode).trans ht) h

theorem HoldsMoments.of_zonedTimestamp (hs : s = .timestampMillis ∨ s = .timestampMicros)
    (hcode : c.code.is .timestampWithTimeZone = true)
    (h : c.ReadsBy vendor s (fun t => Value.ofTimestamp s.timeUnit t.utc) Cursor.zonedTimestamp) :
    c.HoldsMoments vendor s :=
  of_moment hs (fun _ _ _ ht => Cursor.moment_of_zone hcode ht) h

theorem HoldsMoments.of_timestampFamily (hs : s = .timestampMillis ∨ s = .timestampMicros)
    (hnone : ∀ ordinal cur, vendor.read? cur s (c.columnType ordinal) = none)
    (hfamily : c.code.family? = some .timestamp ∨ c.code.family? = some .zonedTimestamp) :
    c.HoldsMoments vendor s := by
  rcases hfamily with hfamily | hfamily
  · have hcode : c.code.is .timestampWithTimeZone = false := by
      apply TypeCode.not_zoned_of_family?
      simp [hfamily]
    apply of_timestamp hs hcode
    apply ReadsBy.of_family hfamily hnone
    rintro f cur index rfl
    rfl
  · have hcode := TypeCode.is_iff.2 (TypeCode.standard?_of_zonedTimestamp hfamily)
    apply of_zonedTimestamp hs hcode
    apply ReadsBy.of_family hfamily hnone
    rintro f cur index rfl
    rfl

theorem HoldsMoments.of_timeFamily (hs : s = .timeMillis ∨ s = .timeMicros)
    (hnone : ∀ ordinal cur, vendor.read? cur s (c.columnType ordinal) = none)
    (hfamily : c.code.family? = some .time) : c.HoldsMoments vendor s := by
  have hread : c.ReadsBy vendor s (Value.ofTime s.timeUnit) Cursor.time := by
    apply ReadsBy.of_family hfamily hnone
    rintro f cur index rfl
    rfl
  apply of_getter hread
  intro ordinal cur t ht
  rcases hs with rfl | rfl
  · exact .timeMillis ht
  · exact .timeMicros ht

theorem ReadsBy.exists_not_encodes (h : c.ReadsBy vendor s .int Cursor.int32) {f : Field}
    (hshape : f.type.shape = s) :
    ∃ ordinal cur x, f.read vendor cur (c.columnType ordinal) = .ok x ∧ x ≠ .null ∧
      ¬cur.Encodes (c.columnType ordinal) s x := by
  have hp : (Cursor.single [] [.i16 1]).value 1 = .ok (.i16 1) := rfl
  have hx : f.read vendor (.single [] [.i16 1]) (c.columnType 1) = .ok (.int 1) :=
    h.read_of_given hshape rfl Value.noConfusion
  exact ⟨1, _, _, hx, Value.noConfusion, Cursor.not_encodes_of_number s _ hp⟩

theorem holdsMoments_of_fits
    (hnone : ∀ ordinal cur, vendor.read? cur s (c.columnType ordinal) = none)
    (hmoment : s.isMoment = true) (hfits : s.fits c = true) : c.HoldsMoments vendor s := by
  cases s with
  | date =>
      have hfamily : c.code.family? = some .date := beq_iff_eq.1 hfits
      have hread : c.ReadsBy vendor .date Value.ofDate Cursor.date :=
        .of_family hfamily hnone fun _ _ _ _ => rfl
      exact .of_getter hread fun _ _ _ h => .date h
  | timeMillis => exact .of_timeFamily (.inl rfl) hnone (beq_iff_eq.1 hfits)
  | timeMicros => exact .of_timeFamily (.inr rfl) hnone (beq_iff_eq.1 hfits)
  | timestampMillis =>
      apply HoldsMoments.of_timestampFamily (.inl rfl) hnone
      simp only [Shape.fits] at hfits
      split at hfits <;> simp_all
  | timestampMicros =>
      apply HoldsMoments.of_timestampFamily (.inr rfl) hnone
      simp only [Shape.fits] at hfits
      split at hfits <;> simp_all
  | null | boolean | int | long | float | double | bytes | string | decimal _ _ | array _
  | record _ => cases hmoment

end Column

section

variable {vendor : Vendor} {c : Column} {t : UniversalType}

theorem Vendor.leaves_moments
    (hvendor : vendor ∈ [Vendor.generic, .postgres, .sqlServer, .db2]) {s : Shape}
    (h : s.isMoment = true) :
    vendor.accepts? s.required c = none ∧ ∀ cur col, vendor.read? cur s col = none := by
  simp only [List.mem_cons, List.not_mem_nil, or_false] at hvendor
  rcases hvendor with rfl | rfl | rfl | rfl
  · exact ⟨rfl, fun _ _ => rfl⟩
  all_goals
    cases s with
    | date | timeMillis | timeMicros | timestampMillis | timestampMicros =>
        exact ⟨rfl, fun _ _ => rfl⟩
    | null | boolean | int | long | float | double | bytes | string | decimal _ _ | array _
    | record _ => cases h

theorem Oracle.holdsMoments (h : t.shape.isMoment = true)
    (hcompatible : t.isCompatible .oracle c = true) : c.HoldsMoments .oracle t.shape := by
  have hlogical : t.shape.logical?.isSome = true := by
    revert h
    cases t.shape <;> simp [Shape.isMoment, Shape.logical?]
  have hscale : t.shape.decimalScale?.isSome = false := by
    revert h
    cases t.shape <;> simp [Shape.isMoment, Shape.decimalScale?]
  have haccepts : Oracle.accepts? (t.withNullable false) c =
      if c.code = localTimestamp then some (isRequiredTimestamp (t.withNullable false))
      else if isBareNumber c then some t.shape.decimalScale?.isSome
      else none := if_pos hlogical
  change (Oracle.accepts? (t.withNullable false) c).getD (t.shape.fits c) = true at hcompatible
  rw [haccepts] at hcompatible
  split at hcompatible
  · rename_i hlocal
    have hs : t.shape = .timestampMillis ∨ t.shape = .timestampMicros := by
      revert hcompatible
      simp only [isRequiredTimestamp, UniversalType.withNullable]
      cases t.shape <;> simp
    have hcode : c.code.is .timestampWithTimeZone = false := by
      rw [hlocal]
      rfl
    apply Column.HoldsMoments.of_timestamp hs hcode
    apply Column.ReadsBy.of_answered
    intro ordinal cur
    exact if_pos hlocal
  · rename_i hlocal
    rw [hscale] at hcompatible
    split at hcompatible
    · cases hcompatible
    · have hfile : c.code ≠ externalFile := by
        intro hcode
        revert hcompatible h
        rw [Option.getD_none]
        cases t.shape <;> simp [Shape.isMoment, Shape.fits, hcode, externalFile,
          TypeCode.family?, TypeCode.standard?]
      apply Column.holdsMoments_of_fits _ h hcompatible
      intro ordinal cur
      have hread : Oracle.read? cur t.shape (c.columnType ordinal) = _ :=
        (if_neg hlocal).trans (if_neg hfile)
      rw [Vendor.read?, hread]
      revert h
      cases t.shape <;> simp [Shape.isMoment]

namespace MySql

/-- The columns that are said to hold dates, times or moments and are read as plain numbers: those
that are named as years, and unsigned numbers of three bytes. -/
def readsNumbers (c : Column) : Bool :=
  isYear c.typeName || c.code.is .integer && isUnsigned c && isMediumInt c.typeName

theorem accepts?_of_isMoment (h : t.shape.isMoment = true) :
    accepts? t c =
      if t.shape.physical = .int ∧ c.code.standard? = some .integer ∧ isUnsigned c = true then
        some (isMediumInt c.typeName)
      else none := by
  obtain ⟨s, nullable⟩ := t
  cases s with
  | date | timeMillis => simp [accepts?, Shape.physical, Shape.logical?]
  | timeMicros | timestampMillis | timestampMicros => simp [accepts?, Shape.physical]
  | null | boolean | int | long | float | double | bytes | string | decimal _ _ | array _
  | record _ => cases h

theorem fits_or_medium (h : t.shape.isMoment = true)
    (hcompatible : t.isCompatible .mysql c = true) :
    t.shape.fits c = true ∨
      c.code.standard? = some .integer ∧ isUnsigned c = true ∧ isMediumInt c.typeName = true := by
  change (accepts? (t.withNullable false) c).getD (t.shape.fits c) = true at hcompatible
  rw [accepts?_of_isMoment (t := t.withNullable false) h] at hcompatible
  split at hcompatible
  · rename_i hinteger
    exact .inr ⟨hinteger.2.1, hinteger.2.2, hcompatible⟩
  · exact .inl hcompatible

theorem holdsMoments (h : t.shape.isMoment = true) (hcompatible : t.isCompatible .mysql c = true)
    (hnumbers : readsNumbers c = false) : c.HoldsMoments .mysql t.shape := by
  rw [readsNumbers, Bool.or_eq_false_iff] at hnumbers
  obtain ⟨hyear, hmedium⟩ := hnumbers
  have hfits : t.shape.fits c = true := by
    apply (fits_or_medium h hcompatible).resolve_right
    rintro ⟨hcode, hunsigned, hname⟩
    rw [TypeCode.is_iff.2 hcode, hunsigned, hname] at hmedium
    cases hmedium
  apply Column.holdsMoments_of_fits _ h hfits
  intro ordinal cur
  have hyear? : read?.year? cur (c.columnType ordinal) = none := year?_of_not_isYear hyear
  revert h
  cases t.shape with
  | date | timeMillis | timeMicros | timestampMillis | timestampMicros => exact fun _ => hyear?
  | null | boolean | int | long | float | double | bytes | string | decimal _ _ | array _
  | record _ => exact fun h => nomatch h

theorem date_or_timeMillis (h : t.shape.isMoment = true)
    (hcompatible : t.isCompatible .mysql c = true) (hcode : c.code.standard? = some .integer) :
    t.shape = .date ∨ t.shape = .timeMillis := by
  have hfamily : c.code.family? = some .integer := (family?_of_standard? hcode).trans rfl
  change (accepts? (t.withNullable false) c).getD (t.shape.fits c) = true at hcompatible
  rw [accepts?_of_isMoment (t := t.withNullable false) h] at hcompatible
  obtain ⟨s, nullable⟩ := t
  cases s with
  | date => exact .inl rfl
  | timeMillis => exact .inr rfl
  | timeMicros | timestampMillis | timestampMicros =>
      simp [UniversalType.withNullable, Shape.physical, Shape.fits, hfamily] at hcompatible
  | null | boolean | int | long | float | double | bytes | string | decimal _ _ | array _
  | record _ => cases h

theorem readsBy_int32 (h : t.shape.isMoment = true) (hcompatible : t.isCompatible .mysql c = true)
    (hnumbers : readsNumbers c = true) : c.ReadsBy .mysql t.shape .int Cursor.int32 := by
  cases hyear : isYear c.typeName with
  | true =>
      have hflag : t.shape = .boolean → c.code.standard? ≠ some .tinyInt := by
        intro hs
        rw [hs] at h
        cases h
      exact .of_answered fun ordinal _ =>
        read?_of_isYear (c := c.columnType ordinal) hyear hflag
  | false =>
      rw [readsNumbers, hyear, Bool.false_or, Bool.and_eq_true, Bool.and_eq_true,
        TypeCode.is_iff] at hnumbers
      obtain ⟨⟨hcode, hunsigned⟩, -⟩ := hnumbers
      have hs := date_or_timeMillis h hcompatible hcode
      apply Column.ReadsBy.of_family ((family?_of_standard? hcode).trans rfl)
      · intro ordinal cur
        have hyear? : read?.year? cur (c.columnType ordinal) = none := year?_of_not_isYear hyear
        rcases hs with hs | hs <;> rw [hs] <;> exact hyear?
      · intro f cur index hshape
        have hword : f.type.shape.physical ≠ .long := by
          rw [hshape]
          rcases hs with hs | hs <;> rw [hs] <;> exact Physical.noConfusion
        exact if_neg hword

end MySql

namespace Vendor

def readsNumbers (v : Vendor) (c : Column) : Bool :=
  match v with
  | mysql => MySql.readsNumbers c
  | generic | postgres | oracle | sqlServer | db2 => false

theorem holdsMoments (h : t.shape.isMoment = true) (hcompatible : t.isCompatible vendor c = true)
    (hnumbers : vendor.readsNumbers c = false) : c.HoldsMoments vendor t.shape := by
  have hleft (hvendor : vendor ∈ [Vendor.generic, .postgres, .sqlServer, .db2]) :
      c.HoldsMoments vendor t.shape := by
    obtain ⟨haccepts, hread⟩ := leaves_moments (c := c) hvendor h
    have hfits : t.shape.fits c = true := by
      change (vendor.accepts? t.shape.required c).getD (t.shape.fits c) = true at hcompatible
      rwa [haccepts, Option.getD_none] at hcompatible
    exact Column.holdsMoments_of_fits (fun _ cur => hread cur _) h hfits
  cases vendor with
  | generic | postgres | sqlServer | db2 => exact hleft (by decide)
  | oracle => exact Oracle.holdsMoments h hcompatible
  | mysql => exact MySql.holdsMoments h hcompatible hnumbers

end Vendor

namespace Column

/-- Whatever a row holds, a field of a date, a time or a moment reads the encoding of what the
getter of its kind gives for the column, just if the column, which is said to hold the type of the
field, is not one that is read as plain numbers. -/
theorem encodes_of_read_iff (h : t.shape.isMoment = true)
    (hcompatible : t.isCompatible vendor c = true) :
    (∀ name ordinal cur x,
      Field.read vendor ⟨name, t⟩ cur (c.columnType ordinal) = .ok x → x ≠ .null →
        cur.Encodes (c.columnType ordinal) t.shape x) ↔ vendor.readsNumbers c = false := by
  constructor
  · intro hall
    rw [← Bool.not_eq_true]
    intro hnumbers
    cases vendor with
    | mysql =>
        have hread := MySql.readsBy_int32 h hcompatible hnumbers
        obtain ⟨ordinal, cur, x, hx, hnull, hnot⟩ := hread.exists_not_encodes (f := ⟨"", t⟩) rfl
        exact hnot (hall "" ordinal cur x hx hnull)
    | generic | postgres | oracle | sqlServer | db2 => cases hnumbers
  · intro hnumbers name ordinal cur x hx hnull
    exact Vendor.holdsMoments h hcompatible hnumbers ⟨name, t⟩ ordinal cur x rfl hx hnull

theorem encodes_of_read_zoned :
    Shape.isMoment .timestampMicros = true ∧
      UniversalType.isCompatible .oracle ⟨.timestampMicros, false⟩
        { name := "SEEN", code := StandardType.timestampWithTimeZone.code,
          typeName := "TIMESTAMP WITH TIME ZONE" } = true ∧
      ∀ name ordinal cur x,
        Field.read .oracle ⟨name, ⟨.timestampMicros, false⟩⟩ cur
            (columnType { name := "SEEN", code := StandardType.timestampWithTimeZone.code,
                          typeName := "TIMESTAMP WITH TIME ZONE" } ordinal) = .ok x → x ≠ .null →
          cur.Encodes
            (columnType { name := "SEEN", code := StandardType.timestampWithTimeZone.code,
                          typeName := "TIMESTAMP WITH TIME ZONE" } ordinal) .timestampMicros x :=
  ⟨rfl, rfl, (encodes_of_read_iff (t := ⟨.timestampMicros, false⟩) rfl rfl).2 rfl⟩

theorem read_year_as_date :
    UniversalType.isCompatible .mysql ⟨.date, false⟩
        { name := "BUILT", code := StandardType.date.code, typeName := "YEAR" } = true ∧
      Field.read .mysql ⟨"BUILT", ⟨.date, false⟩⟩ (.single [] [.i16 2024])
          (columnType { name := "BUILT", code := StandardType.date.code, typeName := "YEAR" } 1) =
        .ok (.int 2024) ∧
      ¬(Cursor.single [] [.i16 2024]).Encodes
          (columnType { name := "BUILT", code := StandardType.date.code, typeName := "YEAR" } 1)
          .date (.int 2024) :=
  ⟨rfl, rfl, Cursor.not_encodes_of_number .date _ rfl⟩

end Column

end

end TableTransfer
