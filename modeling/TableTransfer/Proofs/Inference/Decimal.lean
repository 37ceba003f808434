import TableTransfer.Proofs.Field.Numeric

namespace TableTransfer

/-- The column can have the number: with as many places as its scale says, it has no more digits
than its precision says. -/
def Column.Admits (c : Column) (d : Decimal) : Prop :=
  ∃ n : Int, n.natAbs < tenTo c.precision.toNat ∧
    d.signed * tenTo c.scale.toNat = n * tenTo d.scale

namespace Vendor

variable {vendor : Vendor} {c : Column}

theorem type?_ne_decimal (hfamily : c.code.family? = some .numeric) (precision scale : Nat) :
    vendor.type? c ≠ some (.decimal precision scale) := by
  intro h
  cases vendor with
  | generic => cases h
  | mysql =>
      cases MySql.gives_of_type? h with
      | big _ _ hcode =>
          rw [TypeCode.family?, hcode] at hfamily
          cases hfamily
  | postgres =>
      simp only [type?, Postgres.type?] at h
      split at h <;> cases h
  | oracle =>
      simp only [type?, Oracle.type?] at h
      repeat' split at h
      all_goals cases h
  | sqlServer =>
      simp only [type?, SqlServer.type?] at h
      repeat' split at h
      all_goals cases h
  | db2 =>
      simp only [type?, Db2.type?] at h
      repeat' split at h
      all_goals cases h

theorem readsYears_of_type?_eq_none (h : vendor.type? c = none) :
    vendor.readsYears c = false := by
  cases vendor with
  | mysql => exact (MySql.not_unsigned_of_type?_eq_none h).2.1
  | generic | postgres | oracle | sqlServer | db2 => rfl

end Vendor

namespace Column

variable {vendor : Vendor} {c : Column} {t : UniversalType} {d : Decimal}

theorem shape_of_infer_numeric (hfamily : c.code.family? = some .numeric)
    (h : c.infer vendor = .ok t) :
    (vendor.type? c = none ∧ 0 < c.precision ∧
        t.shape = .decimal c.precision.toNat (min c.scale.toNat c.precision.toNat)) ∨
      vendor.type? c = some t.shape := by
  have hshape := shape_of_infer h
  cases htype : vendor.type? c with
  | some s =>
      rw [htype, Option.some_or] at hshape
      exact .inr hshape
  | none =>
      rw [htype, Option.none_or, genericShape?, hfamily] at hshape
      change Shape.decimalOf? c = some t.shape at hshape
      rw [Shape.decimalOf?] at hshape
      split at hshape
      · cases hshape
      · exact .inl ⟨rfl, by omega, (Option.some.inj hshape).symm⟩

theorem Admits.fitsScale (h : c.Admits d) : d.FitsScale c.scale.toNat := by
  obtain ⟨n, -, hn⟩ := h
  rcases Nat.lt_or_ge c.scale.toNat d.scale with hlt | hle
  · obtain ⟨k, hk⟩ := Nat.exists_eq_add_of_lt hlt
    have hkeep : d.scale - c.scale.toNat = k + 1 := by omega
    have hpos : (tenTo c.scale.toNat : Int) ≠ 0 := Int.natCast_ne_zero.2 (tenTo_pos _).ne'
    have hsigned : d.signed = n * tenTo (k + 1) := by
      apply Int.eq_of_mul_eq_mul_right hpos
      rw [hn, hk, Nat.add_assoc, tenTo_add, Int.natCast_mul]
      ring
    rw [Decimal.FitsScale, hkeep, ← d.signed_natAbs, hsigned, Int.natAbs_mul, Int.natAbs_natCast]
    exact Nat.dvd_mul_left _ _
  · exact Decimal.fitsScale_of_scale_le hle

theorem Admits.coefficient_eq_zero (h : c.Admits d)
    (hscale : c.precision.toNat + 28 ≤ c.scale.toNat) : d.coefficient = 0 := by
  obtain ⟨n, hlt, hn⟩ := h
  by_contra hne
  have hdigits := congrArg Int.natAbs hn
  rw [Int.natAbs_mul, Int.natAbs_mul, Int.natAbs_natCast, Int.natAbs_natCast,
    d.signed_natAbs] at hdigits
  have hplaces : tenTo d.scale ≤ tenTo 28 := tenTo_le_tenTo d.scale_le
  have hsmall : tenTo c.precision.toNat * tenTo 28 ≤ tenTo c.scale.toNat := by
    rw [← tenTo_add]
    exact tenTo_le_tenTo hscale
  have : n.natAbs * tenTo d.scale < tenTo c.scale.toNat :=
    calc n.natAbs * tenTo d.scale
        < tenTo c.precision.toNat * tenTo d.scale := Nat.mul_lt_mul_of_pos_right hlt (tenTo_pos _)
      _ ≤ tenTo c.precision.toNat * tenTo 28 := Nat.mul_le_mul_left _ hplaces
      _ ≤ tenTo c.scale.toNat := hsmall
  have : tenTo c.scale.toNat ≤ d.coefficient * tenTo c.scale.toNat :=
    Nat.le_mul_of_pos_left _ (Nat.pos_of_ne_zero hne)
  omega

theorem admits_oneAt (hprecision : 0 < c.precision.toNat)
    (hscale : c.scale.toNat < c.precision.toNat + 28) :
    c.Admits (.oneAt (min c.scale.toNat 28) (Nat.min_le_right ..)) := by
  refine ⟨(tenTo (c.scale.toNat - min c.scale.toNat 28) : Nat), ?_, ?_⟩
  · rw [Int.natAbs_natCast]
    exact Nat.pow_lt_pow_right (by decide) (by omega)
  · change (1 : Int) * tenTo c.scale.toNat =
      (tenTo (c.scale.toNat - min c.scale.toNat 28) : Nat) * (tenTo (min c.scale.toNat 28) : Nat)
    rw [← Int.natCast_mul, ← tenTo_add, Int.one_mul,
      Nat.sub_add_cancel (Nat.min_le_left ..)]

/-- The scale that is cut down to the precision holds every number of the column. -/
theorem forall_fitsScale_iff (hprecision : 0 < c.precision.toNat) :
    (∀ d, c.Admits d → d.FitsScale (min c.scale.toNat c.precision.toNat)) ↔
      c.scale.toNat ≤ c.precision.toNat ∨ 28 ≤ c.precision.toNat ∨
        c.precision.toNat + 28 ≤ c.scale.toNat := by
  constructor
  · intro hall
    by_contra hnot
    have hfits := hall _ (admits_oneAt hprecision (by omega))
    have hplace := (Decimal.fitsScale_oneAt_iff _).1 hfits
    omega
  · rintro hcase d hd
    by_cases hkept : c.scale.toNat ≤ c.precision.toNat
    · rw [Nat.min_eq_left hkept]
      exact hd.fitsScale
    rcases hcase.resolve_left hkept with hmany | hfar
    · apply Decimal.fitsScale_of_scale_le
      have hscale := d.scale_le
      omega
    · exact Decimal.fitsScale_of_coefficient (hd.coefficient_eq_zero hfar) _

/-- The type that is inferred for a column of exact numbers is a decimal that reads every number of
the column as this number, just if the dialect has no other type for the column and the column has
no more places than digits; more places do no harm only where decimals do not reach them. -/
theorem sameNumber_of_read_inferred_iff (hfamily : c.code.family? = some .numeric)
    (h : c.infer vendor = .ok t) :
    ((∃ precision scale, t.shape = .decimal precision scale) ∧
        ∀ name ordinal cur d, c.Admits d → Cursor.decimal cur ordinal = .ok (some d) →
          ∃ e, Field.read vendor ⟨name, t⟩ cur (c.columnType ordinal) = .ok (.decimal e) ∧
            e.SameNumber d) ↔
      vendor.type? c = none ∧
        (c.scale ≤ c.precision ∨ 28 ≤ c.precision ∨ c.precision + 28 ≤ c.scale) := by
  rcases shape_of_infer_numeric hfamily h with ⟨htype, hprecision, hshape⟩ | htype
  · have hyear := Vendor.readsYears_of_type?_eq_none htype
    have hcolumn := forall_fitsScale_iff (c := c) (by omega)
    obtain ⟨shape, nullable⟩ := t
    obtain rfl : shape = _ := hshape
    constructor
    · rintro ⟨-, hall⟩
      have hfits := hcolumn.1 fun d hd =>
        (Field.exists_sameNumber_iff hfamily hyear rfl).1
          (hall "" 1 (.single [] [.decimal d]) d hd rfl)
      exact ⟨htype, by omega⟩
    · rintro ⟨-, hcase⟩
      refine ⟨⟨_, _, rfl⟩, fun name ordinal cur d hd hread => ?_⟩
      have hfits := hcolumn.2 (by omega) d hd
      exact (Field.exists_sameNumber_iff hfamily hyear hread).2 hfits
  · apply iff_of_false
    · rintro ⟨⟨precision, scale, hshape⟩, -⟩
      rw [hshape] at htype
      exact Vendor.type?_ne_decimal hfamily precision scale htype
    · rintro ⟨hnone, -⟩
      rw [hnone] at htype
      cases htype

theorem sameNumber_of_read_inferred_rate :
    StandardType.numeric.code.family? = some .numeric ∧
      infer .oracle { name := "RATE", code := StandardType.numeric.code, typeName := "NUMBER",
                      precision := 5, scale := 5 } = .ok ⟨.decimal 5 5, true⟩ ∧
      ∀ name ordinal cur d,
        Admits { name := "RATE", code := StandardType.numeric.code, typeName := "NUMBER",
                 precision := 5, scale := 5 } d →
          Cursor.decimal cur ordinal = .ok (some d) →
          ∃ e, Field.read .oracle ⟨name, ⟨.decimal 5 5, true⟩⟩ cur
              (columnType { name := "RATE", code := StandardType.numeric.code,
                            typeName := "NUMBER", precision := 5, scale := 5 } ordinal) =
            .ok (.decimal e) ∧ e.SameNumber d :=
  ⟨rfl, rfl, ((sameNumber_of_read_inferred_iff rfl rfl).2 ⟨rfl, .inl (by decide)⟩).2⟩

/-- Two digits at the fourth and fifth place are read as zero at two places. -/
theorem read_inferred_rounded_to_zero :
    infer .oracle { name := "RATE", code := StandardType.numeric.code, typeName := "NUMBER",
                    precision := 2, scale := 5 } = .ok ⟨.decimal 2 2, true⟩ ∧
      ∃ d e, Decimal.ofScaled? 12 5 = some d ∧ Decimal.ofScaled? 0 2 = some e ∧
        Admits { name := "RATE", code := StandardType.numeric.code, typeName := "NUMBER",
                 precision := 2, scale := 5 } d ∧
        Field.read .oracle ⟨"RATE", ⟨.decimal 2 2, true⟩⟩ (.single [] [.decimal d])
            (columnType { name := "RATE", code := StandardType.numeric.code,
                          typeName := "NUMBER", precision := 2, scale := 5 } 1) =
          .ok (.decimal e) ∧
        ¬e.SameNumber d :=
  ⟨rfl, _, _, rfl, rfl, ⟨12, by decide, rfl⟩, rfl, by decide⟩

end Column

end TableTransfer
