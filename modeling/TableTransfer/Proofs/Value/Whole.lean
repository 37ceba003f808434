import TableTransfer.Value.Basic
import TableTransfer.Value.Coercion

namespace TableTransfer

/-- The decimal stands for the whole number, at whatever scale. A zero with a sign is one too. -/
def Decimal.IsNumber (d : Decimal) (n : Int) : Prop := d.signed = n * tenTo d.scale

/-- A zero with the sign of the numbers below it. -/
structure Decimal.IsSignedZero (d : Decimal) : Prop where
  negative : d.negative = true
  zero : d.coefficient = 0

namespace Decimal

variable {d : Decimal} {n : Int}

theorem isNumber_whole (h : d.isWhole = true) : d.IsNumber d.whole := by
  have hdvd : tenTo d.scale ∣ d.coefficient := Nat.dvd_of_mod_eq_zero (of_decide_eq_true h)
  have hcoefficient :
      (d.coefficient : Int) = (d.coefficient / tenTo d.scale : Nat) * tenTo d.scale := by
    rw [← Int.natCast_mul, Nat.div_mul_cancel hdvd]
  simp only [IsNumber, signed, whole]
  split
  · rw [Int.neg_mul, ← hcoefficient]
  · exact hcoefficient

theorem whole_nonneg (h : d.negative = false) : 0 ≤ d.whole := by
  rw [whole, h, if_neg Bool.false_ne_true]
  exact Int.natCast_nonneg _

theorem isNumber_ofInt64 (w : Int64) : (ofInt64 w).IsNumber w.toInt := by
  rw [IsNumber, signed_ofInt64]
  exact (Int.mul_one _).symm

theorem not_isSignedZero_ofInt64 (w : Int64) : ¬(ofInt64 w).IsSignedZero := by
  rintro ⟨hnegative, hzero⟩
  have hlt : w.toInt < 0 := of_decide_eq_true hnegative
  have heq : w.toInt.natAbs = 0 := hzero
  omega

namespace IsNumber

theorem isWhole (h : d.IsNumber n) : d.isWhole = true := by
  have hcoefficient := congrArg Int.natAbs h
  rw [signed_natAbs, Int.natAbs_mul, Int.natAbs_natCast] at hcoefficient
  rw [Decimal.isWhole, hcoefficient, Nat.mul_mod_left]
  rfl

theorem whole (h : d.IsNumber n) : d.whole = n := by
  have hne : (tenTo d.scale : Int) ≠ 0 := Int.natCast_ne_zero.2 (Nat.ne_of_gt (tenTo_pos d.scale))
  exact Int.eq_of_mul_eq_mul_right hne ((isNumber_whole h.isWhole).symm.trans h)

theorem negative_eq_false (h : d.IsNumber n) (h0 : 0 ≤ n) (hzero : ¬d.IsSignedZero) :
    d.negative = false := by
  rw [← Bool.not_eq_true]
  intro hnegative
  refine hzero ⟨hnegative, ?_⟩
  have hsigned : -(d.coefficient : Int) = n * tenTo d.scale := by
    rw [← h, signed, hnegative, if_pos rfl]
  have hle : 0 ≤ n * (tenTo d.scale : Int) := Int.mul_nonneg h0 (Int.natCast_nonneg _)
  omega

end IsNumber

end Decimal

namespace SqlValue

/-- The values of a row that stand for the whole number. -/
inductive IsNumber : SqlValue → Int → Prop
  | i16 (w : Int16) : IsNumber (.i16 w) w.toInt
  | i32 (w : Int32) : IsNumber (.i32 w) w.toInt
  | i64 (w : Int64) : IsNumber (.i64 w) w.toInt
  | decimal {d : Decimal} {n : Int} (h : d.IsNumber n) : IsNumber (.decimal d) n

inductive IsSignedZero : SqlValue → Prop
  | decimal {d : Decimal} (h : d.IsSignedZero) : IsSignedZero (.decimal d)

namespace IsNumber

variable {p : SqlValue} {n : Int}

theorem isNull_eq (h : p.IsNumber n) : p.isNull = false := by
  cases h <;> rfl

theorem unique {m : Int} (h : p.IsNumber n) (h' : p.IsNumber m) : n = m := by
  cases h with
  | i16 w | i32 w | i64 w =>
      cases h'
      rfl
  | decimal hd =>
      cases h' with
      | decimal hd' => exact hd.whole.symm.trans hd'.whole

theorem ofInt16 (h : -0x8000 ≤ n ∧ n < 0x8000) : IsNumber (.i16 (Int16.ofInt n)) n := by
  have hword : (Int16.ofInt n).toInt = n := Int16.toInt_ofInt_of_le h.1 h.2
  have hnumber := IsNumber.i16 (Int16.ofInt n)
  rwa [hword] at hnumber

theorem asInt64? (h : p.IsNumber n) : p.asInt64? = int64? n := by
  cases h with
  | i16 w | i32 w => rfl
  | i64 w => exact (int64?_eq_some_iff.2 rfl).symm
  | decimal h =>
      simp only [SqlValue.asInt64?]
      rw [h.isWhole, if_pos rfl, h.whole]

theorem asInt32? (h : p.IsNumber n) : p.asInt32? = int32? n := by
  rw [SqlValue.asInt32?, h.asInt64?]
  cases hlong : int64? n with
  | some w => rw [Option.bind_some, int64?_eq_some_iff.1 hlong]
  | none =>
      cases hint : int32? n with
      | none => rfl
      | some w =>
          have hw : int64? n = some w.toInt64 :=
            int64?_eq_some_iff.2 (w.toInt_toInt64.trans (int32?_eq_some_iff.1 hint))
          rw [hlong] at hw
          cases hw

/-- Words are read as decimals without a sign for zero, and decimals as they are. -/
theorem asDecimal? (h : p.IsNumber n) :
    ∃ d, p.asDecimal? = some d ∧ d.IsNumber n ∧ (d.IsSignedZero → p.IsSignedZero) := by
  have hword (w : Int64) (hw : w.toInt = n) (hp : p.asDecimal? = p.asInt64?.map .ofInt64) :
      ∃ d, p.asDecimal? = some d ∧ d.IsNumber n ∧ (d.IsSignedZero → p.IsSignedZero) := by
    refine ⟨.ofInt64 w, ?_, hw ▸ Decimal.isNumber_ofInt64 w,
      fun hzero => absurd hzero (Decimal.not_isSignedZero_ofInt64 w)⟩
    rw [hp, h.asInt64?, int64?_eq_some_iff.2 hw, Option.map_some]
  cases h with
  | i16 w =>
      have hw : int64? w.toInt = some w.toInt64 := int64?_eq_some_iff.2 w.toInt_toInt64
      exact hword _ (int64?_eq_some_iff.1 hw) rfl
  | i32 w =>
      have hw : int64? w.toInt = some w.toInt64 := int64?_eq_some_iff.2 w.toInt_toInt64
      exact hword _ (int64?_eq_some_iff.1 hw) rfl
  | i64 w => exact hword w rfl rfl
  | decimal hd => exact ⟨_, rfl, hd, .decimal⟩

end IsNumber

end SqlValue

namespace Value

/-- The values of records that stand for the whole number; a flag is one or zero. -/
inductive IsNumber : Value → Int → Prop
  | boolean (b : Bool) : IsNumber (.boolean b) (if b then 1 else 0)
  | int (w : Int32) : IsNumber (.int w) w.toInt
  | long (w : Int64) : IsNumber (.long w) w.toInt
  | decimal {d : Decimal} {n : Int} (h : d.IsNumber n) : IsNumber (.decimal d) n

inductive IsSignedZero : Value → Prop
  | decimal {d : Decimal} (h : d.IsSignedZero) : IsSignedZero (.decimal d)

theorem IsNumber.ne_null {v : Value} {n : Int} (h : v.IsNumber n) : v ≠ .null := by
  cases h <;> exact Value.noConfusion

theorem IsSignedZero.ne_null {v : Value} (h : v.IsSignedZero) : v ≠ .null := by
  cases h
  exact Value.noConfusion

end Value

end TableTransfer
