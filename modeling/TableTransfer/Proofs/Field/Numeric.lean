import TableTransfer.Proofs.Decimal.Exact
import TableTransfer.Proofs.Field.Inferred

namespace TableTransfer

theorem TypeCode.standard?_of_numeric {code : TypeCode} (h : code.family? = some .numeric) :
    code.standard? = some .numeric ∨ code.standard? = some .decimal := by
  rw [family?] at h
  obtain ⟨t, ht, hfamily⟩ := Option.bind_eq_some_iff.1 h
  cases t <;> simp_all [StandardType.family?]

namespace Decimal

variable {d : Decimal} {scale : Nat}

theorem FitsScale.atScale (h : d.FitsScale scale) (field : String) :
    d.atScale field scale = .ok (.decimal (d.rescaleHalfEven scale)) := by
  rw [Decimal.atScale, h.rescaleExact?.1]

theorem atScale_of_not_fits (h : ¬d.FitsScale scale) (field : String) :
    d.atScale field scale = .error (.conversion field (.losesDigits d scale)) := by
  rw [atScale, rescaleExact?_eq_none h]

end Decimal

namespace Vendor

def readsYears (v : Vendor) (c : Column) : Bool :=
  match v with
  | mysql => MySql.isYear c.typeName
  | generic | postgres | oracle | sqlServer | db2 => false

/-- The columns whose decimals are rounded to the places of the field. -/
def roundsDecimals (v : Vendor) (c : Column) : Bool :=
  match v with
  | postgres | oracle => c.code.is .numeric
  | generic | mysql | sqlServer | db2 => false

variable {vendor : Vendor} {c : Column}

theorem read?_decimal (hfamily : c.code.family? = some .numeric) (precision scale ordinal : Nat)
    (cur : Cursor) :
    vendor.read? cur (.decimal precision scale) (c.columnType ordinal) =
      if vendor.readsYears c then some (Value.ofRead .int (cur.int32 ordinal))
      else if vendor.roundsDecimals c then some (cur.roundedDecimal scale ordinal)
      else none := by
  cases vendor with
  | generic | postgres | sqlServer | db2 => rfl
  | oracle =>
      have hlocal : c.code ≠ Oracle.localTimestamp := TypeCode.ne_of_family? hfamily rfl
      have hfile : c.code ≠ Oracle.externalFile := TypeCode.ne_of_family? hfamily rfl
      exact (if_neg hlocal).trans (if_neg hfile)
  | mysql =>
      by_cases hyear : MySql.isYear c.typeName = true
      · have hword : MySql.read? cur (.decimal precision scale) (c.columnType ordinal) =
            some (Value.ofRead .int (cur.int32 ordinal)) :=
          MySql.read?_of_isYear hyear (fun h => nomatch h)
        exact hword.trans (if_pos hyear).symm
      · have hcode : c.code.standard? ≠ some .bigInt := by
          rcases TypeCode.standard?_of_numeric hfamily with h | h <;> simp [h]
        have hbig : ¬MySql.isUnsignedBigInt c.code c.typeName = true := by
          rw [MySql.isUnsignedBigInt, TypeCode.is_eq_decide, decide_eq_false hcode, Bool.false_and]
          exact Bool.false_ne_true
        have hnumber : MySql.read? cur (.decimal precision scale) (c.columnType ordinal) = none :=
          (MySql.read?_decimal cur (c.columnType ordinal) (Bool.not_eq_true _ ▸ hyear) precision
            scale).trans (if_neg hbig)
        exact hnumber.trans ((if_neg hyear).trans (if_neg Bool.false_ne_true)).symm

theorem isCompatible_decimal (hfamily : c.code.family? = some .numeric) (precision scale : Nat)
    (nullable : Bool) :
    UniversalType.isCompatible vendor ⟨.decimal precision scale, nullable⟩ c = true := by
  have hfits : Shape.fits (.decimal precision scale) c = true := beq_iff_eq.2 hfamily
  change (vendor.accepts? ⟨.decimal precision scale, false⟩ c).getD
    (Shape.fits (.decimal precision scale) c) = true
  rw [hfits]
  have hanswer : vendor.accepts? ⟨.decimal precision scale, false⟩ c ≠ some false := by
    intro hrefused
    cases vendor with
    | generic | sqlServer | db2 => cases hrefused
    | postgres =>
        simp only [accepts?, Postgres.accepts?] at hrefused
        split at hrefused <;> simp at hrefused
    | oracle =>
        have hlocal : c.code ≠ Oracle.localTimestamp := TypeCode.ne_of_family? hfamily rfl
        change (if c.code = Oracle.localTimestamp then _
          else if Oracle.isBareNumber c then some true else none) = some false at hrefused
        rw [if_neg hlocal] at hrefused
        split at hrefused <;> cases hrefused
    | mysql =>
        simp only [accepts?, MySql.accepts?, Shape.physical, Shape.logical?] at hrefused
        rcases TypeCode.standard?_of_numeric hfamily with h | h <;> rw [h] at hrefused <;>
          cases hrefused
  cases hcase : vendor.accepts? ⟨.decimal precision scale, false⟩ c with
  | none => rfl
  | some answer =>
      rw [hcase] at hanswer
      simpa using hanswer

end Vendor

namespace Field

variable {vendor : Vendor} {c : Column} {name : String} {precision scale ordinal : Nat}
  {nullable : Bool} {cur : Cursor} {d : Decimal}

theorem read_decimal (hfamily : c.code.family? = some .numeric)
    (hyear : vendor.readsYears c = false) (hd : cur.decimal ordinal = .ok (some d)) :
    read vendor ⟨name, ⟨.decimal precision scale, nullable⟩⟩ cur (c.columnType ordinal) =
      if vendor.roundsDecimals c then .ok (.decimal (d.rescaleHalfEven scale))
      else d.atScale name scale := by
  rw [read, Vendor.read?_decimal hfamily, hyear, if_neg Bool.false_ne_true]
  cases vendor.roundsDecimals c with
  | true =>
      rw [if_pos rfl, if_pos rfl, Option.getD_some, Cursor.roundedDecimal, hd]
      rfl
  | false =>
      rw [if_neg Bool.false_ne_true, if_neg Bool.false_ne_true, Option.getD_none,
        readGeneric_of_family? hfamily]
      change (cur.decimal ordinal >>= _).bind _ = _
      rw [hd]
      by_cases hfits : d.FitsScale scale
      · change (d.atScale name scale).bind _ = _
        rw [hfits.atScale]
        rfl
      · change (d.atScale name scale).bind _ = _
        rw [Decimal.atScale_of_not_fits hfits]
        rfl

/-- The decimals that fit the places of the field are read as the number that they are, and no
others. -/
theorem exists_sameNumber_iff (hfamily : c.code.family? = some .numeric)
    (hyear : vendor.readsYears c = false) (hd : cur.decimal ordinal = .ok (some d)) :
    (∃ e, read vendor ⟨name, ⟨.decimal precision scale, nullable⟩⟩ cur (c.columnType ordinal) =
        .ok (.decimal e) ∧ e.SameNumber d) ↔ d.FitsScale scale := by
  rw [read_decimal hfamily hyear hd]
  constructor
  · rintro ⟨e, he, hsame⟩
    by_contra hfits
    split at he
    · cases he
      exact hfits (Decimal.sameNumber_rescaleHalfEven_iff.1 hsame)
    · rw [Decimal.atScale_of_not_fits hfits] at he
      cases he
  · intro hfits
    refine ⟨d.rescaleHalfEven scale, ?_, Decimal.sameNumber_rescaleHalfEven_iff.2 hfits⟩
    split
    · rfl
    · exact hfits.atScale name

theorem read_zero_of_year (hfamily : c.code.family? = some .numeric)
    (hyear : vendor.readsYears c = true) :
    read vendor ⟨name, ⟨.decimal precision scale, nullable⟩⟩ (.single [] [.decimal (.ofInt64 0)])
      (c.columnType 1) = .ok (.int 0) := by
  apply read_eq_ok.2
  constructor
  · rw [Vendor.read?_decimal hfamily, if_pos hyear]
    rfl
  · exact fun h => nomatch h

end Field

namespace Column

variable {vendor : Vendor} {c : Column}

/-- A column of exact numbers is said to hold every decimal. Whatever decimal a row has, a field of
decimals gives the same number or fails, just if the column is not one of years, and is not one
that is rounded while the field has fewer places than decimals can have. -/
theorem sameNumber_of_read_decimal_iff (hfamily : c.code.family? = some .numeric)
    (precision scale : Nat) (nullable : Bool) :
    UniversalType.isCompatible vendor ⟨.decimal precision scale, nullable⟩ c = true ∧
      ((∀ name ordinal cur d v, Cursor.decimal cur ordinal = .ok (some d) →
          Field.read vendor ⟨name, ⟨.decimal precision scale, nullable⟩⟩ cur
            (c.columnType ordinal) = .ok v →
          ∃ e, v = .decimal e ∧ e.SameNumber d) ↔
        vendor.readsYears c = false ∧ (vendor.roundsDecimals c = true → 28 ≤ scale)) := by
  refine ⟨Vendor.isCompatible_decimal hfamily precision scale nullable, ?_, ?_⟩
  · intro hall
    have hyear : vendor.readsYears c = false := by
      rw [← Bool.not_eq_true]
      intro hyear
      obtain ⟨e, he, -⟩ := hall "" 1 _ _ _ rfl (Field.read_zero_of_year hfamily hyear)
      cases he
    refine ⟨hyear, fun hrounds => ?_⟩
    have hd : (Cursor.single [] [.decimal (.oneAt 28 le_rfl)]).decimal 1 =
        .ok (some (.oneAt 28 le_rfl)) := rfl
    obtain ⟨e, he, hsame⟩ := hall "" 1 _ _ _ hd
      ((Field.read_decimal hfamily hyear hd).trans (if_pos hrounds))
    cases he
    exact (Decimal.fitsScale_oneAt_iff le_rfl).1 (Decimal.sameNumber_rescaleHalfEven_iff.1 hsame)
  · rintro ⟨hyear, hrounds⟩ name ordinal cur d v hd hv
    by_cases hfits : d.FitsScale scale
    · obtain ⟨e, he, hsame⟩ := (Field.exists_sameNumber_iff hfamily hyear hd).2 hfits
      rw [he] at hv
      cases hv
      exact ⟨e, rfl, hsame⟩
    · rw [Field.read_decimal hfamily hyear hd] at hv
      split at hv
      · have hplaces : d.scale ≤ scale := le_trans d.scale_le (hrounds ‹_›)
        exact absurd (Decimal.fitsScale_of_scale_le hplaces) hfits
      · rw [Decimal.atScale_of_not_fits hfits] at hv
        cases hv

theorem sameNumber_of_read_decimal_price :
    StandardType.decimal.code.family? = some .numeric ∧
      ∀ name ordinal cur d v, Cursor.decimal cur ordinal = .ok (some d) →
        Field.read .postgres ⟨name, ⟨.decimal 10 1, false⟩⟩ cur
            (columnType { name := "PRICE", code := StandardType.decimal.code,
                          typeName := "decimal", precision := 10, scale := 2 } ordinal) = .ok v →
          ∃ e, v = .decimal e ∧ e.SameNumber d :=
  ⟨rfl, (sameNumber_of_read_decimal_iff rfl 10 1 false).2.2 ⟨rfl, fun h => nomatch h⟩⟩

theorem read_sized_rounded :
    UniversalType.isCompatible .postgres ⟨.decimal 10 1, false⟩
        { name := "PRICE", code := StandardType.numeric.code, typeName := "numeric",
          precision := 10, scale := 2 } = true ∧
      ∃ d e, Decimal.ofScaled? 125 2 = some d ∧ Decimal.ofScaled? 12 1 = some e ∧
        Field.read .postgres ⟨"PRICE", ⟨.decimal 10 1, false⟩⟩ (.single [] [.decimal d])
            (columnType { name := "PRICE", code := StandardType.numeric.code,
                          typeName := "numeric", precision := 10, scale := 2 } 1) =
          .ok (.decimal e) ∧
        ¬e.SameNumber d :=
  ⟨rfl, _, _, rfl, rfl, rfl, by decide⟩

end Column

end TableTransfer
