import TableTransfer.Proofs.Decimal.Power
import TableTransfer.Proofs.Decimal.Printed
import TableTransfer.Proofs.Field.Getter
import TableTransfer.Proofs.Field.Outcome
import TableTransfer.Proofs.Field.RoundTrip

namespace TableTransfer

namespace Postgres

variable {c : Column} (hnumeric : c.code.is .numeric = true) (hname : isTextName c.typeName = false)
include hnumeric

theorem readsBy_numeric : c.ReadsBy .postgres .string .string Cursor.string := by
  apply Column.ReadsBy.of_answered
  intro ordinal cur
  exact if_pos (by rw [Bool.or_eq_true]; exact .inr hnumeric)

include hname

theorem binds_numericText (f : Field) (i : Nat) {text : String} {d : Decimal}
    (h : Decimal.ofText (Text.trim text.toList) = .ok d) :
    f.Binds .postgres (c.columnType (i + 1)) (.string text) (.decimal d) := by
  have hwrite : (Vendor.postgres.write? f.name (c.columnType (i + 1)) (.string text) :
      Option (ParamM Statement Unit)) = some ((c.columnType (i + 1)).bind (.decimal d)) := by
    refine (if_neg (ne_true_of_eq_false hname)).trans ((if_pos hnumeric).trans ?_)
    rw [h]
  exact Field.binds_of_answered (Nat.succ_ne_zero i) rfl hwrite

theorem rejects_numericText (f : Field) (ordinal : Nat) {text : String}
    {fault : Decimal.TextFault} (h : Decimal.ofText (Text.trim text.toList) = .error fault) :
    f.Rejects .postgres (c.columnType ordinal) (.string text) := by
  have hwrite : (Vendor.postgres.write? f.name (c.columnType ordinal) (.string text) :
      Option (ParamM Statement Unit)) =
        some (throw (.conversion f.name (.notNumeric text fault))) := by
    refine (if_neg (ne_true_of_eq_false hname)).trans ((if_pos hnumeric).trans ?_)
    rw [h]
  exact Field.rejects_of_answered rfl hwrite

end Postgres

namespace Column

/-- A text is refused, or it is a number in digits and a decimal is bound. That is the number just
if decimals hold it, and hold it before its power of ten too. A decimal that is read as text is
written back with its digits and its scale, and is the same apart from the sign of a zero. -/
theorem numericText_writes_iff {c : Column} (hnumeric : c.code.is .numeric = true)
    (hname : Postgres.isTextName c.typeName = false) {f : Field} (hshape : f.type.shape = .string)
    (i : Nat) :
    (∀ text : String, f.Rejects .postgres (c.columnType (i + 1)) (.string text) ∨
      ∃ d : Decimal, f.Binds .postgres (c.columnType (i + 1)) (.string text) (.decimal d) ∧
        (Numeral.ofText (Text.trim text.toList)).IsProper ∧
          (d.toRat = (Numeral.ofText (Text.trim text.toList)).toRat ↔
            Decimal.IsHeld (Numeral.ofText (Text.trim text.toList)).base ∧
              Decimal.IsHeld (Numeral.ofText (Text.trim text.toList)).toRat)) ∧
    ∀ d : Decimal,
      (∀ cur : Cursor, cur.value (i + 1) = .ok (.decimal d) →
        f.read .postgres cur (c.columnType (i + 1)) = .ok (.string d.text)) ∧
      (Numeral.ofText d.text.toList).toRat = d.toRat ∧
      ∃ e : Decimal, f.Binds .postgres (c.columnType (i + 1)) (.string d.text) (.decimal e) ∧
        e.scale = d.scale ∧ e.toRat = d.toRat ∧
          (d.negative = false ∨ d.coefficient ≠ 0 → e = d) := by
  constructor
  · intro text
    cases hread : Decimal.ofText (Text.trim text.toList) with
    | error fault => exact .inl (Postgres.rejects_numericText hnumeric hname f (i + 1) hread)
    | ok d =>
        exact .inr ⟨d, Postgres.binds_numericText hnumeric hname f i hread,
          Decimal.ofText_reads hread⟩
  · intro d
    refine ⟨?_, d.toRat_numeral_text, d.settled,
      Postgres.binds_numericText hnumeric hname f i d.ofText_text, rfl, d.toRat_settled,
      Decimal.settled_eq⟩
    intro cur hp
    have htext : SqlValue.asString? (.decimal d) = some d.text := rfl
    exact (Postgres.readsBy_numeric hnumeric).read_of_given hshape
      (Cursor.read_of_value hp rfl htext "string") Value.noConfusion

def longNumeral : String := "0.12345678901234567890123456789"

def numberColumn : Column :=
  { name := "N", code := StandardType.numeric.code, typeName := "numeric" }

theorem numericText_writes_iff_cents :
    ∃ e : Decimal, (Field.mk "N" ⟨.string, true⟩).Binds .postgres (numberColumn.columnType 1)
        (.string "-0.050") (.decimal e) ∧ e = ⟨true, 50, 3, by decide, by decide⟩ := by
  obtain ⟨-, -, e, hbinds, -, -, hsame⟩ := (numericText_writes_iff (c := numberColumn) rfl rfl
    (f := ⟨"N", ⟨.string, true⟩⟩) rfl 0).2 ⟨true, 50, 3, by decide, by decide⟩
  exact ⟨e, hbinds, hsame (.inr (by decide))⟩

theorem toRat_longNumeral : (Numeral.ofText (Text.trim longNumeral.toList)).toRat =
    (12345678901234567890123456789 : ℤ) / tenTo 29 := by
  have hsigned : (Numeral.ofText (Text.trim longNumeral.toList)).signed =
      12345678901234567890123456789 := rfl
  have hscale : (Numeral.ofText (Text.trim longNumeral.toList)).scale = 29 := rfl
  have hexponent : (Numeral.ofText (Text.trim longNumeral.toList)).exponent = 0 := rfl
  rw [Numeral.toRat, Numeral.base, hsigned, hscale, hexponent, zpow_zero, mul_one]

/-- The last of 29 places is rounded off, and no fault tells so. -/
theorem longNumeral_is_rounded :
    (Field.mk "N" ⟨.string, true⟩).Binds .postgres (numberColumn.columnType 1)
        (.string longNumeral) (.decimal
          ⟨false, 1234567890123456789012345679, 28, by decide, by decide⟩) ∧
      ¬((Field.mk "N" ⟨.string, true⟩).Rejects .postgres (numberColumn.columnType 1)
          (.string longNumeral) ∨
        ∃ d : Decimal, (Field.mk "N" ⟨.string, true⟩).Binds .postgres (numberColumn.columnType 1)
            (.string longNumeral) (.decimal d) ∧
          d.toRat = (Numeral.ofText (Text.trim longNumeral.toList)).toRat) := by
  have hread : Decimal.ofText (Text.trim longNumeral.toList) =
      .ok ⟨false, 1234567890123456789012345679, 28, by decide, by decide⟩ := rfl
  have hbinds :=
    Postgres.binds_numericText (c := numberColumn) rfl rfl ⟨"N", ⟨.string, true⟩⟩ 0 hread
  refine ⟨hbinds, ?_⟩
  rintro (hrejects | ⟨d, hd, hsame⟩)
  · exact hbinds.not_rejects hrejects
  · cases hbinds.unique hd
    rw [toRat_longNumeral, Decimal.toRat_eq_iff] at hsame
    exact absurd hsame (by decide)

end Column

end TableTransfer
