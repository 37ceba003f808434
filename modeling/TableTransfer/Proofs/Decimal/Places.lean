import TableTransfer.Proofs.Decimal.Exact

namespace TableTransfer.Decimal

/-- The digit at a place after the point. -/
def digitAt (d : Decimal) (place : Nat) : Nat := d.coefficient * tenTo place / tenTo d.scale % 10

/-- The coefficient stays in range when zeros are added up to so many places. -/
def HasRoom (d : Decimal) (places : Nat) : Prop :=
  d.coefficient * tenTo (places - d.scale) < limit

instance (d : Decimal) (places : Nat) : Decidable (d.HasRoom places) :=
  inferInstanceAs (Decidable (_ < _))

/-- There is a decimal with so many places that is the same number. -/
def IsHeldAt (d : Decimal) (places : Nat) : Prop :=
  ∃ e : Decimal, e.scale = places ∧ e.SameNumber d

variable {d : Decimal} {places : Nat}

theorem tenTo_scale {k : Nat} (h : k ≤ d.scale) :
    tenTo d.scale = tenTo k * tenTo (d.scale - k) := by
  rw [← tenTo_add, Nat.add_sub_cancel' h]

theorem digitAt_from_end {k : Nat} (h : k ≤ d.scale) :
    d.digitAt (d.scale - k) = d.coefficient / tenTo k % 10 := by
  rw [digitAt, tenTo_scale h, Nat.mul_div_mul_right _ _ (tenTo_pos _)]

theorem FitsScale.digitAt_eq_zero (h : d.FitsScale places) {place : Nat} (hplace : places < place) :
    d.digitAt place = 0 := by
  obtain ⟨m, hm⟩ := h
  obtain ⟨k, hk⟩ : ∃ k, d.scale - places + place = k + 1 + d.scale :=
    ⟨d.scale - places + place - d.scale - 1, by omega⟩
  have hshift : d.coefficient * tenTo place = m * tenTo k * 10 * tenTo d.scale :=
    calc d.coefficient * tenTo place
        = m * tenTo (d.scale - places + place) := by rw [hm, tenTo_add]; ring
      _ = m * tenTo k * 10 * tenTo d.scale := by rw [hk, tenTo_add, tenTo_succ]; ring
  rw [digitAt, hshift, Nat.mul_div_cancel _ (tenTo_pos _), Nat.mul_mod_left]

theorem tenTo_dvd_of_digitAt (h : ∀ place, places < place → d.digitAt place = 0) {k : Nat}
    (hk : k ≤ d.scale - places) : tenTo k ∣ d.coefficient := by
  induction k with
  | zero => exact Nat.one_dvd _
  | succ k ih =>
      have hdvd := ih (by omega)
      have hdigit := h (d.scale - k) (by omega)
      rw [digitAt_from_end (by omega)] at hdigit
      rw [tenTo_succ, ← Nat.mul_div_cancel' hdvd]
      exact Nat.mul_dvd_mul_left _ (Nat.dvd_of_mod_eq_zero hdigit)

theorem fitsScale_iff_digitAt :
    d.FitsScale places ↔ ∀ place, places < place → d.digitAt place = 0 :=
  ⟨fun h _ => h.digitAt_eq_zero, fun h => tenTo_dvd_of_digitAt h le_rfl⟩

theorem hasRoom_of_le (h : places ≤ d.scale) : d.HasRoom places := by
  rw [HasRoom, Nat.sub_eq_zero_of_le h]
  exact lt_of_eq_of_lt (Nat.mul_one _) d.coefficient_lt

/-- Zeros are added one at a time, and there is room for all just if there is for the last. -/
theorem scale_extend_iff (d : Decimal) (steps : Nat) :
    (d.extend steps).scale = d.scale + steps ↔
      d.scale + steps ≤ 28 ∧ d.coefficient * tenTo steps < limit := by
  induction steps generalizing d with
  | zero => exact iff_of_true rfl ⟨d.scale_le, lt_of_eq_of_lt (Nat.mul_one _) d.coefficient_lt⟩
  | succ steps ih =>
      have hzeros : d.coefficient * tenTo (steps + 1) = d.coefficient * 10 * tenTo steps := by
        rw [tenTo_succ]
        ring
      rw [extend, hzeros, ← Nat.add_assoc, Nat.add_right_comm]
      split
      · exact ih _
      · rename_i hfull
        apply iff_of_false
        · omega
        · rintro ⟨hscale, hlt⟩
          have hle : d.coefficient * 10 ≤ d.coefficient * 10 * tenTo steps :=
            Nat.le_mul_of_pos_right _ (tenTo_pos _)
          exact hfull ⟨lt_of_le_of_lt hle hlt, by omega⟩

theorem scale_rescaleHalfEven_iff :
    (d.rescaleHalfEven places).scale = places ↔ places ≤ 28 ∧ d.HasRoom places := by
  rw [rescaleHalfEven]
  rcases Nat.lt_or_ge places d.scale with hlt | hle
  · have hrounded : ((d.round places).extend (places - (d.round places).scale)).scale = places := by
      rw [scale_round hlt, Nat.sub_self]
      exact scale_round hlt
    exact iff_of_true hrounded ⟨hlt.le.trans d.scale_le, hasRoom_of_le hlt.le⟩
  · have hextend := d.scale_extend_iff (places - d.scale)
    rw [Nat.add_sub_cancel' hle] at hextend
    rw [round_of_le hle]
    exact hextend

/-- Moved to another scale without loss, a decimal is the same number, and it has the scale just if
there is room for it. It is not moved just if it has a digit other than zero behind the scale. -/
theorem rescaleExact_iff_digits (d : Decimal) (places : Nat) :
    (∀ r, d.rescaleExact? places = some r →
        r.SameNumber d ∧ (r.scale = places ↔ places ≤ 28 ∧ d.HasRoom places)) ∧
      (d.rescaleExact? places = none ↔ ∃ place, places < place ∧ d.digitAt place ≠ 0) := by
  by_cases hfits : d.FitsScale places
  · obtain ⟨hmoved, hsame⟩ := hfits.rescaleExact?
    rw [hmoved]
    constructor
    · rintro r ⟨⟩
      exact ⟨hsame, scale_rescaleHalfEven_iff⟩
    · apply iff_of_false
      · exact Option.some_ne_none _
      · rintro ⟨place, hplace, hdigit⟩
        exact hdigit (hfits.digitAt_eq_zero hplace)
  · rw [rescaleExact?_eq_none hfits]
    constructor
    · rintro r ⟨⟩
    · apply iff_of_true rfl
      simpa [fitsScale_iff_digitAt] using hfits

theorem rescaleExact_iff_digits_largest :
    ∃ d r, ofScaled? 79228162514264337593543950335 1 = some d ∧ d.rescaleExact? 28 = some r ∧
      r.scale = 1 ∧ r.SameNumber d := by
  have hmoved : rescaleExact? ⟨false, 79228162514264337593543950335, 1, by decide, by decide⟩ 28 =
      some ⟨false, 79228162514264337593543950335, 1, by decide, by decide⟩ := rfl
  exact ⟨_, _, rfl, hmoved, rfl, ((rescaleExact_iff_digits _ 28).1 _ hmoved).1⟩

theorem isHeldAt_iff (h : places ≤ 28) :
    d.IsHeldAt places ↔ d.FitsScale places ∧ d.HasRoom places := by
  constructor
  · rintro ⟨e, hscale, hsame⟩
    have hsigned := congrArg Int.natAbs hsame
    rw [Int.natAbs_mul, Int.natAbs_mul, Int.natAbs_natCast, Int.natAbs_natCast, signed_natAbs,
      signed_natAbs, hscale] at hsigned
    rcases Nat.le_total places d.scale with hle | hle
    · refine ⟨⟨e.coefficient, ?_⟩, hasRoom_of_le hle⟩
      apply Nat.eq_of_mul_eq_mul_right (tenTo_pos places)
      rw [← hsigned, tenTo_scale hle]
      ring
    · refine ⟨fitsScale_of_scale_le hle, ?_⟩
      have hcoefficient : d.coefficient * tenTo (places - d.scale) = e.coefficient := by
        apply Nat.eq_of_mul_eq_mul_right (tenTo_pos d.scale)
        rw [hsigned, Nat.mul_assoc, ← tenTo_add, Nat.sub_add_cancel hle]
      rw [HasRoom, hcoefficient]
      exact e.coefficient_lt
  · rintro ⟨hfits, hroom⟩
    exact ⟨_, scale_rescaleHalfEven_iff.2 ⟨h, hroom⟩, sameNumber_rescaleHalfEven_iff.2 hfits⟩

theorem isHeldAt_round_iff (h : places ≤ 28) :
    (d.round places).IsHeldAt places ↔ d.HasRoom places := by
  rw [isHeldAt_iff h]
  rcases Nat.lt_or_ge places d.scale with hlt | hle
  · have hscale := (scale_round hlt).ge
    exact iff_of_true ⟨fitsScale_of_scale_le (scale_round hlt).le, hasRoom_of_le hscale⟩
      (hasRoom_of_le hlt.le)
  · rw [round_of_le hle]
    exact and_iff_right (fitsScale_of_scale_le hle)

end TableTransfer.Decimal
