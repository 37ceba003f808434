import TableTransfer.Proofs.Decimal.Places
import TableTransfer.Proofs.Decimal.Unscaled
import TableTransfer.Proofs.Field.Getter
import TableTransfer.Proofs.Field.Numeric

namespace TableTransfer

namespace Decimal

theorem ofUnscaledBytes?_unscaledBytes (d : Decimal) (scale : Nat) :
    ofUnscaledBytes? d.unscaledBytes scale = ofScaled? d.signed scale := by
  have hshortest := d.isShortest_unscaledBytes
  rw [ofUnscaledBytes?_of_length hshortest.ne_nil d.length_unscaledBytes_le, hshortest.value]

theorem exists_ofScaled?_signed (d : Decimal) :
    ∃ e, ofScaled? d.signed d.scale = some e ∧ e.SameNumber d := by
  have hrange : d.signed.natAbs < limit ∧ d.scale ≤ 28 := by
    rw [d.signed_natAbs]
    exact ⟨d.coefficient_lt, d.scale_le⟩
  obtain ⟨e, he⟩ : ∃ e, ofScaled? d.signed d.scale = some e := ⟨_, dif_pos hrange⟩
  obtain ⟨hsigned, hscale⟩ := ofScaled?_eq_some he
  exact ⟨e, he, by rw [SameNumber, hsigned, hscale]⟩

theorem HasRoom.exists_decode {d : Decimal} {places : Nat} (hroom : d.HasRoom places)
    (hplaces : places ≤ 28) :
    (d.rescaleHalfEven places).scale = places ∧
      ∃ back, ofUnscaledBytes? (d.rescaleHalfEven places).unscaledBytes places = some back ∧
        back.SameNumber (d.rescaleHalfEven places) := by
  have hscale := scale_rescaleHalfEven_iff.2 ⟨hplaces, hroom⟩
  obtain ⟨back, hback, hsame⟩ := (d.rescaleHalfEven places).exists_ofScaled?_signed
  rw [hscale] at hback
  exact ⟨hscale, back, (ofUnscaledBytes?_unscaledBytes _ _).trans hback, hsame⟩

end Decimal

namespace Vendor

variable {v : Vendor} {c : Column} {places : Nat} {d : Decimal}

/-- The number that a column has for fields with so many places. -/
def numberAt (v : Vendor) (c : Column) (places : Nat) (d : Decimal) : Decimal :=
  if v.roundsDecimals c then d.round places else d

theorem isHeldAt_numberAt_iff (h : places ≤ 28) :
    (v.numberAt c places d).IsHeldAt places ↔
      (v.roundsDecimals c = true ∨ d.FitsScale places) ∧ d.HasRoom places := by
  rw [numberAt]
  split
  · rename_i hrounds
    rw [Decimal.isHeldAt_round_iff h]
    exact (and_iff_right (.inl hrounds)).symm
  · rename_i hrounds
    rw [Decimal.isHeldAt_iff h, or_iff_right hrounds]

end Vendor

namespace Field

/-- The decimals that a field gives have its places, at which their unscaled bytes stand for them.
For a number that no decimal with so many places is, the field fails. -/
structure Delivers (vendor : Vendor) (f : Field) (places : Nat) (c : Column) (cur : Cursor)
    (ordinal : Nat) : Prop where
  decodes : ∀ e, f.read vendor cur (c.columnType ordinal) = .ok (.decimal e) →
    e.scale = places ∧
      ∃ back, Decimal.ofUnscaledBytes? e.unscaledBytes places = some back ∧ back.SameNumber e
  fails : ∀ d, cur.decimal ordinal = .ok (some d) →
    ¬(vendor.numberAt c places d).IsHeldAt places →
      ∃ fault, f.read vendor cur (c.columnType ordinal) = .error fault

variable {vendor : Vendor} {c : Column} {name : String} {precision scale ordinal : Nat}
  {nullable : Bool} {cur : Cursor} {d e : Decimal}

theorem read_ne_decimal_of_year (hfamily : c.code.family? = some .numeric)
    (hyear : vendor.readsYears c = true) :
    read vendor ⟨name, ⟨.decimal precision scale, nullable⟩⟩ cur (c.columnType ordinal) ≠
      .ok (.decimal e) := by
  intro h
  obtain ⟨hread, -⟩ := read_eq_ok.1 h
  rw [Vendor.read?_decimal hfamily, if_pos hyear, Option.getD_some] at hread
  obtain ⟨n, -, hword⟩ := Value.exists_of_ofRead hread Value.noConfusion
  cases hword

theorem exists_decimal_of_read (hfamily : c.code.family? = some .numeric)
    (hyear : vendor.readsYears c = false)
    (h : read vendor ⟨name, ⟨.decimal precision scale, nullable⟩⟩ cur (c.columnType ordinal) =
      .ok (.decimal e)) :
    ∃ d, cur.decimal ordinal = .ok (some d) ∧
      (vendor.roundsDecimals c = true ∨ d.FitsScale scale) ∧ e = d.rescaleHalfEven scale := by
  obtain ⟨hread, -⟩ := read_eq_ok.1 h
  rw [Vendor.read?_decimal hfamily, hyear, if_neg Bool.false_ne_true] at hread
  cases hrounds : vendor.roundsDecimals c with
  | true =>
      rw [hrounds, if_pos rfl, Option.getD_some, Cursor.roundedDecimal] at hread
      obtain ⟨d, hd, he⟩ := Value.exists_of_ofRead hread Value.noConfusion
      cases he
      exact ⟨d, hd, .inl rfl, rfl⟩
  | false =>
      rw [hrounds, if_neg Bool.false_ne_true, Option.getD_none, readGeneric_of_family? hfamily]
        at hread
      obtain ⟨o, hd, hscaled⟩ := bind_eq_ok.1 hread
      cases o with
      | none => cases hscaled
      | some d =>
          by_cases hfits : d.FitsScale scale
          · cases hscaled.symm.trans (hfits.atScale name)
            exact ⟨d, hd, .inr hfits, rfl⟩
          · cases hscaled.symm.trans (Decimal.atScale_of_not_fits hfits name)

theorem read_of_kept (hfamily : c.code.family? = some .numeric)
    (hyear : vendor.readsYears c = false) (hd : cur.decimal ordinal = .ok (some d))
    (hkept : vendor.roundsDecimals c = true ∨ d.FitsScale scale) :
    read vendor ⟨name, ⟨.decimal precision scale, nullable⟩⟩ cur (c.columnType ordinal) =
      .ok (.decimal (d.rescaleHalfEven scale)) := by
  rw [read_decimal hfamily hyear hd]
  split
  · rfl
  · rename_i hrounds
    exact (hkept.resolve_left hrounds).atScale name

/-- Over a column that is not one of years a field gives its decimals as declared, just if each that
it reads has room at its places. -/
theorem delivers_iff (hfamily : c.code.family? = some .numeric)
    (hyear : vendor.readsYears c = false) (hscale : scale ≤ 28) :
    Delivers vendor ⟨name, ⟨.decimal precision scale, nullable⟩⟩ scale c cur ordinal ↔
      ∀ d, cur.decimal ordinal = .ok (some d) →
        vendor.roundsDecimals c = true ∨ d.FitsScale scale → d.HasRoom scale := by
  constructor
  · intro h d hd hkept
    obtain ⟨hplaces, -⟩ := h.decodes _ (read_of_kept hfamily hyear hd hkept)
    exact (Decimal.scale_rescaleHalfEven_iff.1 hplaces).2
  · intro hroom
    constructor
    · intro e he
      obtain ⟨d, hd, hkept, rfl⟩ := exists_decimal_of_read hfamily hyear he
      exact (hroom d hd hkept).exists_decode hscale
    · intro d hd hnone
      -- What is kept has room, so a number that is not held has lost a digit.
      have hlost : ¬(vendor.roundsDecimals c = true ∨ d.FitsScale scale) := fun hkept =>
        hnone ((Vendor.isHeldAt_numberAt_iff hscale).2 ⟨hkept, hroom d hd hkept⟩)
      obtain ⟨hrounds, hfits⟩ := not_or.1 hlost
      rw [read_decimal hfamily hyear hd, if_neg hrounds, Decimal.atScale_of_not_fits hfits]
      exact ⟨_, rfl⟩

end Field

namespace Column

variable {vendor : Vendor} {c : Column}

/-- A column of exact numbers is said to hold every decimal. Fields of decimals give what they read
at their own scale, where its unscaled bytes stand for it, and fail for what has no such form, just
if each decimal of the row that is read has room at that scale; where a column is rounded, this is
about the rounded number. Columns of years give no decimals at all. -/
theorem delivers_decimal_iff (hfamily : c.code.family? = some .numeric) {scale : Nat}
    (hscale : scale ≤ 28) (precision : Nat) (nullable : Bool) (name : String) (cur : Cursor)
    (ordinal : Nat) :
    UniversalType.isCompatible vendor ⟨.decimal precision scale, nullable⟩ c = true ∧
      (vendor.readsYears c = true → ∀ e, Field.read vendor
        ⟨name, ⟨.decimal precision scale, nullable⟩⟩ cur (c.columnType ordinal) ≠
          .ok (.decimal e)) ∧
      (vendor.readsYears c = false →
        (Field.Delivers vendor ⟨name, ⟨.decimal precision scale, nullable⟩⟩ scale c cur ordinal ↔
          ∀ d, cur.decimal ordinal = .ok (some d) →
            vendor.roundsDecimals c = true ∨ d.FitsScale scale → d.HasRoom scale)) :=
  ⟨Vendor.isCompatible_decimal hfamily precision scale nullable,
    fun hyear _ => Field.read_ne_decimal_of_year hfamily hyear,
    fun hyear => Field.delivers_iff hfamily hyear hscale⟩

theorem delivers_decimal_largest :
    Field.Delivers .mysql ⟨"TOTAL", ⟨.decimal 38 1, false⟩⟩ 1
      { name := "TOTAL", code := StandardType.decimal.code, typeName := "DECIMAL", precision := 38,
        scale := 1 }
      (.single [] [.decimal ⟨false, 79228162514264337593543950335, 1, by decide, by decide⟩]) 1 := by
  apply ((delivers_decimal_iff rfl (by decide) 38 false "TOTAL" _ 1).2.2 rfl).2
  rintro d ⟨⟩ -
  decide

/-- One digit more than there is room for: the decimal keeps nine places of ten, and its bytes stand
for a tenth part of it. -/
theorem read_without_room :
    ∃ d e back, Decimal.ofScaled? 123456789012345678905 1 = some d ∧
      Field.read .generic ⟨"TOTAL", ⟨.decimal 38 10, false⟩⟩ (.single [] [.decimal d])
          (columnType { name := "TOTAL", code := StandardType.decimal.code, typeName := "DECIMAL",
                        precision := 38, scale := 10 } 1) = .ok (.decimal e) ∧
      e.scale = 9 ∧ Decimal.ofUnscaledBytes? e.unscaledBytes 10 = some back ∧
      ¬back.SameNumber e :=
  ⟨_, _, _, rfl, rfl, rfl, rfl, by decide⟩

end Column

end TableTransfer
