import TableTransfer.Proofs.Field.Delivered
import TableTransfer.Proofs.Field.Marshalled
import TableTransfer.Proofs.Field.Outcome
import TableTransfer.Proofs.Field.Unsigned

namespace TableTransfer

namespace Field

/-- Both forms of the decimal are bound, as one number at one scale, or both are refused with a fault
of the field. -/
def WritesAlike (vendor : Vendor) (f : Field) (c : ColumnType) (d : Decimal) : Prop :=
  (∃ e e', f.Binds vendor c (.decimal d) (.decimal e) ∧
      f.Binds vendor c (.bytes d.unscaledBytes) (.decimal e') ∧
      e'.SameNumber e ∧ e'.scale = e.scale) ∨
    (f.Rejects vendor c (.decimal d) ∧ f.Rejects vendor c (.bytes d.unscaledBytes))

end Field

namespace Vendor

variable {vendor : Vendor} {c : Column} {precision scale : Nat} {nullable : Bool}

/-- Columns of exact numbers hold every decimal. The only others that hold any are MySQL's columns of
64 bits without a sign, which hold those without places. -/
theorem numeric_or_bigInt_of_isCompatible
    (h : UniversalType.isCompatible vendor ⟨.decimal precision scale, nullable⟩ c = true) :
    c.code.family? = some .numeric ∨
      vendor = .mysql ∧ c.code.standard? = some .bigInt ∧ scale = 0 := by
  have hholds : (vendor.accepts? (Shape.decimal precision scale).required c).getD
      ((Shape.decimal precision scale).fits c) = true := h
  have hfits (hf : (Shape.decimal precision scale).fits c = true) :
      c.code.family? = some .numeric := beq_iff_eq.1 hf
  cases vendor with
  | generic | sqlServer | db2 => exact .inl (hfits hholds)
  | postgres => exact .inl (hfits (Postgres.fits_of_holds Shape.noConfusion hholds))
  | oracle =>
      rw [accepts?, Oracle.accepts?_of_logical rfl] at hholds
      split at hholds
      · cases hholds
      · split at hholds
        · rename_i hbare
          rw [Oracle.isBareNumber, Bool.and_eq_true, Bool.and_eq_true, TypeCode.is_iff] at hbare
          rw [TypeCode.family?, hbare.1.1]
          exact .inl rfl
        · exact .inl (hfits hholds)
  | mysql =>
      by_cases hcode : c.code.standard? = some .bigInt
      · cases hunsigned : MySql.isUnsigned c with
        | true =>
            simp [accepts?, MySql.accepts?, Shape.required, Shape.physical, Shape.decimalScale?,
              hcode, hunsigned] at hholds
            exact .inr ⟨rfl, hcode, hholds⟩
        | false =>
            simp [accepts?, MySql.accepts?, Shape.required, Shape.physical, hcode, hunsigned]
              at hholds
            exact .inl (hfits hholds)
      · simp [accepts?, MySql.accepts?, Shape.required, Shape.physical, Shape.logical?, hcode]
          at hholds
        exact .inl (hfits hholds)

theorem write?_numeric (hfamily : c.code.family? = some .numeric) {v : Value}
    (hv : (∃ d, v = .decimal d) ∨ ∃ b, v = .bytes b) (name : String) (ordinal : Nat) :
    (vendor.write? name (c.columnType ordinal) v : Option (ParamM Statement Unit)) = none := by
  have hcode := TypeCode.standard?_of_numeric hfamily
  cases vendor with
  | generic | postgres | sqlServer | db2 =>
      obtain ⟨d, rfl⟩ | ⟨b, rfl⟩ := hv
      all_goals rfl
  | oracle =>
      have hfile : c.code ≠ Oracle.externalFile := TypeCode.ne_of_family? hfamily rfl
      obtain ⟨d, rfl⟩ | ⟨b, rfl⟩ := hv
      all_goals exact if_neg hfile
  | mysql =>
      obtain ⟨d, rfl⟩ | ⟨b, rfl⟩ := hv
      · apply if_neg
        change ¬(c.code.is .bigInt && MySql.isUnsignedName c.typeName) = true
        rw [TypeCode.is_eq_decide]
        rcases hcode with h | h <;> simp [h]
      · apply if_neg
        change ¬c.code.is .bit = true
        rw [TypeCode.is_iff]
        rcases hcode with h | h <;> simp [h]

end Vendor

namespace Field

variable {vendor : Vendor} {c : Column} {f : Field} {d : Decimal} {precision : Nat}

theorem writesAlike_of_numeric (hfamily : c.code.family? = some .numeric)
    (hshape : f.type.shape = .decimal precision d.scale) (i : Nat) :
    f.WritesAlike vendor (c.columnType (i + 1)) d := by
  obtain ⟨e, he, hsame⟩ := d.exists_ofScaled?_signed
  have hdecoded : Family.numeric.write f (c.columnType (i + 1)) (.bytes d.unscaledBytes) =
      .ok (.decimal e) := by
    rw [← Decimal.ofUnscaledBytes?_unscaledBytes] at he
    change Family.writeUnscaled f d.unscaledBytes = _
    rw [Family.writeUnscaled, hshape, Shape.decimalScale?, Option.getD_some, he]
  refine .inl ⟨d, e, ?_, ?_, hsame, (Decimal.ofScaled?_eq_some he).2⟩
  · exact binds_of_family (Nat.succ_ne_zero i) hfamily rfl
      (Vendor.write?_numeric hfamily (.inl ⟨d, rfl⟩) ..) rfl
  · exact binds_of_family (Nat.succ_ne_zero i) hfamily rfl
      (Vendor.write?_numeric hfamily (.inr ⟨_, rfl⟩) ..) hdecoded

end Field

namespace MySql

variable {c : Column} {f : Field} {d : Decimal} {family : Family} {width : Nat}

theorem rejects_bytes (hfamily : c.code.family? = some .bigInt) (ordinal : Nat) (b : List UInt8) :
    f.Rejects .mysql (c.columnType ordinal) (.bytes b) := by
  have hnone : (Vendor.mysql.write? f.name (c.columnType ordinal) (.bytes b) :
      Option (ParamM Statement Unit)) = none := by
    apply if_neg
    change ¬c.code.is .bit = true
    rw [TypeCode.is_iff, TypeCode.standard?_of_width? hfamily rfl]
    decide
  exact Field.rejects_of_family hfamily rfl hnone rfl

theorem isUnsignedBigInt_iff :
    isUnsignedBigInt c.code c.typeName = true ↔
      c.code.standard? = some .bigInt ∧ isUnsignedName c.typeName = true := by
  rw [isUnsignedBigInt, Bool.and_eq_true, TypeCode.is_iff]

theorem binds_decimal (hunsigned : isUnsignedBigInt c.code c.typeName = true)
    (hsign : d.negative = false) (hwhole : d.isWhole = true) (i : Nat) :
    f.Binds .mysql (c.columnType (i + 1)) (.decimal d) (.decimal d) := by
  obtain ⟨hcode, hname⟩ := isUnsignedBigInt_iff.1 hunsigned
  have hwrites : c.Writes .mysql f.type.shape (.decimal d) (.decimal d) :=
    writes_decimal hcode hname hsign hwhole
  exact hwrites.runOn rfl (Nat.succ_ne_zero i)

theorem rejects_decimal (hfamily : c.code.family? = some family)
    (hwidth : family.width? = some width)
    (h : ¬(isUnsignedBigInt c.code c.typeName = true ∧ d.negative = false ∧ d.isWhole = true))
    (ordinal : Nat) : f.Rejects .mysql (c.columnType ordinal) (.decimal d) := by
  by_cases hunsigned : isUnsignedBigInt c.code c.typeName = true
  · have hlost : (d.negative || !d.isWhole) = true := by
      cases hsign : d.negative with
      | true => rfl
      | false =>
          cases hwhole : d.isWhole with
          | true => exact absurd ⟨hunsigned, hsign, hwhole⟩ h
          | false => rfl
    have hanswer : (Vendor.mysql.write? f.name (c.columnType ordinal) (.decimal d) :
        Option (ParamM Statement Unit)) =
          some (throw (.conversion f.name (.notUnsignedBigInt d))) :=
      (if_pos hunsigned).trans (if_pos hlost)
    exact Field.rejects_of_answered rfl hanswer
  · have hrefused : family.write f (c.columnType ordinal) (.decimal d) =
        .error ((Value.decimal d).unwritable f (c.columnType ordinal)) := by
      cases family <;> cases hwidth <;> rfl
    exact Field.rejects_of_family hfamily rfl (if_neg hunsigned) hrefused

theorem writesAlike_iff_of_bigInt (hcode : c.code.standard? = some .bigInt) (hscale : d.scale = 0)
    (i : Nat) : f.WritesAlike .mysql (c.columnType (i + 1)) d ↔
      ¬(isUnsignedBigInt c.code c.typeName = true ∧ d.negative = false) := by
  have hfamily : c.code.family? = some .bigInt := by
    rw [TypeCode.family?, hcode]
    rfl
  have hwhole : d.isWhole = true := by
    rw [Decimal.isWhole, hscale]
    exact decide_eq_true (Nat.mod_one _)
  have hbytes := rejects_bytes (f := f) hfamily (i + 1) d.unscaledBytes
  constructor
  · rintro (⟨_, _, -, hbound, -⟩ | ⟨hrejects, -⟩) ⟨hunsigned, hsign⟩
    · exact hbound.not_rejects hbytes
    · exact (binds_decimal hunsigned hsign hwhole i).not_rejects hrejects
  · intro h
    refine .inr ⟨rejects_decimal hfamily rfl ?_ (i + 1), hbytes⟩
    exact fun hkept => h ⟨hkept.1, hkept.2.1⟩

end MySql

namespace Column

variable {vendor : Vendor} {c : Column} {d : Decimal} {precision : Nat} {nullable : Bool}

/-- Over the columns that are said to hold a decimal its two forms are written alike, unless it has
no sign and the column is one of MySQL's that are unsigned by their name. -/
theorem writesAlike_iff
    (h : UniversalType.isCompatible vendor ⟨.decimal precision d.scale, nullable⟩ c = true)
    (name : String) (i : Nat) :
    Field.WritesAlike vendor ⟨name, ⟨.decimal precision d.scale, nullable⟩⟩
        (c.columnType (i + 1)) d ↔
      ¬(vendor = .mysql ∧ MySql.isUnsignedBigInt c.code c.typeName = true ∧
        d.negative = false) := by
  rcases Vendor.numeric_or_bigInt_of_isCompatible h with hfamily | ⟨rfl, hcode, hscale⟩
  · apply iff_of_true (Field.writesAlike_of_numeric hfamily rfl i)
    rintro ⟨-, hunsigned, -⟩
    rcases TypeCode.standard?_of_numeric hfamily with hcode | hcode
    all_goals cases hcode.symm.trans (MySql.isUnsignedBigInt_iff.1 hunsigned).1
  · rw [MySql.writesAlike_iff_of_bigInt hcode hscale i, and_iff_right rfl]

theorem writesAlike_halves :
    UniversalType.isCompatible .mysql ⟨.decimal 5 1, true⟩
        { name := "N", code := StandardType.decimal.code, typeName := "DECIMAL" } = true ∧
      Field.WritesAlike .mysql ⟨"N", ⟨.decimal 5 1, true⟩⟩
        (columnType { name := "N", code := StandardType.decimal.code, typeName := "DECIMAL" } 1)
        ⟨false, 55, 1, by decide, by decide⟩ :=
  ⟨rfl, (writesAlike_iff (d := ⟨false, 55, 1, by decide, by decide⟩)
    (show UniversalType.isCompatible .mysql ⟨.decimal 5 1, true⟩ _ = true from rfl) "N" 0).2
    (by decide)⟩

/-- Seven is bound as a decimal, while the byte that stands for it is refused. -/
theorem unsigned_refuses_bytes :
    UniversalType.isCompatible .mysql ⟨.decimal 20 0, true⟩
        { name := "ID", code := StandardType.bigInt.code, typeName := "BIGINT UNSIGNED",
          signed := false } = true ∧
      (Field.write .mysql ⟨"ID", ⟨.decimal 20 0, true⟩⟩
          (columnType { name := "ID", code := StandardType.bigInt.code,
                        typeName := "BIGINT UNSIGNED", signed := false } 1)
          (.decimal (.ofNat false 7 (by decide)))).runOn ({} : Statement) =
        (.ok (), { params := [⟨1, .decimal (.ofNat false 7 (by decide))⟩] }) ∧
      (Decimal.ofNat false 7 (by decide)).unscaledBytes = [7] ∧
      (Field.write .mysql ⟨"ID", ⟨.decimal 20 0, true⟩⟩
          (columnType { name := "ID", code := StandardType.bigInt.code,
                        typeName := "BIGINT UNSIGNED", signed := false } 1)
          (.bytes [7])).runOn ({} : Statement) =
        (.error (.conversion "ID" (.unwritable "bytes" "BIGINT UNSIGNED" "ID")), {}) := by
  refine ⟨?_, ?_, ?_, ?_⟩
  all_goals rfl

end Column

end TableTransfer
