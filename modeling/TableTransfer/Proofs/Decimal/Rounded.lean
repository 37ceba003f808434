import TableTransfer.Proofs.Decimal.Places

namespace TableTransfer

theorem roundHalfEven_half (num : Nat) {den : Nat} (hden : 0 < den) :
    2 * ((roundHalfEven num den : Int) * den - num).natAbs ≤ den ∧
      (2 * ((roundHalfEven num den : Int) * den - num).natAbs = den →
        roundHalfEven num den % 2 = 0) := by
  have hdivision := Nat.div_add_mod num den
  have hremainder := Nat.mod_lt num hden
  have hproduct : ((num / den : Nat) : Int) * den = (den * (num / den) : Nat) := by
    push_cast
    ring
  have hnext : ((num / den + 1 : Nat) : Int) * den = (den * (num / den) : Nat) + den := by
    push_cast
    ring
  simp only [roundHalfEven]
  repeat' split
  all_goals simp only [hproduct, hnext]
  all_goals omega

namespace Decimal

/-- The decimal is `n * 10 ^ -places`. -/
def IsMultiple (d : Decimal) (places : Nat) (n : Int) : Prop :=
  d.signed * tenTo places = n * tenTo d.scale

/-- How far the decimal is from `n * 10 ^ -places`, counted in units of both their last places. -/
def distance (d : Decimal) (places : Nat) (n : Int) : Nat :=
  (n * tenTo d.scale - d.signed * tenTo places).natAbs

/-- No multiple of the last place is nearer to the decimal, and if another is as near the last digit
is even. -/
structure IsNearest (d : Decimal) (places : Nat) (n : Int) : Prop where
  nearest (m : Int) : d.distance places n ≤ d.distance places m
  even_of_tie (m : Int) : m ≠ n → d.distance places m = d.distance places n → n % 2 = 0

variable {d : Decimal} {places : Nat} {n m : Int}

theorem natAbs_mul_le_distance (n m : Int) :
    (m - n).natAbs * tenTo d.scale ≤ d.distance places m + d.distance places n := by
  have hsplit : (m - n) * tenTo d.scale = (m * tenTo d.scale - d.signed * tenTo places) -
      (n * tenTo d.scale - d.signed * tenTo places) := by ring
  calc (m - n).natAbs * tenTo d.scale
      = ((m - n) * tenTo d.scale).natAbs := by rw [Int.natAbs_mul, Int.natAbs_natCast]
    _ ≤ d.distance places m + d.distance places n := by
        rw [hsplit]
        exact Int.natAbs_sub_le _ _

/-- What is off by half a step at most is the nearest multiple, and no other multiple is. -/
theorem isNearest_iff_of_half (hhalf : 2 * d.distance places n ≤ tenTo d.scale)
    (heven : 2 * d.distance places n = tenTo d.scale → n % 2 = 0) :
    d.IsNearest places m ↔ m = n := by
  have hpos := tenTo_pos d.scale
  have hstep {m : Int} (hne : m ≠ n) :
      tenTo d.scale ≤ d.distance places m + d.distance places n := by
    have hone : 1 ≤ (m - n).natAbs := by omega
    exact (Nat.le_mul_of_pos_left _ hone).trans (natAbs_mul_le_distance n m)
  constructor
  · intro hm
    by_contra hne
    have hle := hm.nearest n
    have hfar := hstep hne
    have hm_even := hm.even_of_tie n (Ne.symm hne) (by omega)
    have hn_even := heven (by omega)
    -- Two even multiples are two steps apart, which is more than both are off together.
    have htwo : 2 * tenTo d.scale ≤ d.distance places m + d.distance places n :=
      (Nat.mul_le_mul_right _ (by omega)).trans (natAbs_mul_le_distance n m)
    omega
  · rintro rfl
    constructor
    · intro k
      by_cases hk : k = m
      · rw [hk]
      · have hfar := hstep hk
        omega
    · intro k hk htie
      have hfar := hstep hk
      exact heven (by omega)

theorem scale_round_le (d : Decimal) (places : Nat) : (d.round places).scale ≤ places := by
  rcases Nat.lt_or_ge places d.scale with hlt | hle
  · exact (scale_round hlt).le
  · rwa [round_of_le hle]

/-- The last place counted in the rounded decimal, with the zeros that it may have no room for. -/
def rounded (d : Decimal) (places : Nat) : Int :=
  (d.round places).signed * tenTo (places - (d.round places).scale)

theorem distance_round {k : Nat} (hk : d.scale = places + k) (n : Int) :
    d.distance places n = (n * tenTo k - d.signed).natAbs * tenTo places := by
  have hfactor : n * tenTo (places + k) - d.signed * tenTo places =
      (n * tenTo k - d.signed) * tenTo places := by
    rw [tenTo_add]
    push_cast
    ring
  rw [distance, hk, hfactor, Int.natAbs_mul, Int.natAbs_natCast]

theorem natAbs_sign_mul (negative : Bool) (a b : Int) :
    ((if negative then -1 else 1) * a - (if negative then -1 else 1) * b).natAbs =
      (a - b).natAbs := by
  cases negative
  · simp
  · simp
    omega

theorem distance_rounded_half (d : Decimal) (places : Nat) :
    2 * d.distance places (d.rounded places) ≤ tenTo d.scale ∧
      (2 * d.distance places (d.rounded places) = tenTo d.scale → d.rounded places % 2 = 0) := by
  rcases Nat.lt_or_ge places d.scale with hlt | hle
  · obtain ⟨k, hk⟩ := Nat.exists_eq_add_of_le hlt.le
    have hdropped : d.scale - places = k := by omega
    obtain ⟨hhalf, heven⟩ := roundHalfEven_half d.coefficient (tenTo_pos k)
    have hrounded : d.rounded places =
        (if d.negative then -1 else 1) * roundHalfEven d.coefficient (tenTo k) := by
      rw [rounded, scale_round hlt, signed_round hlt, Nat.sub_self, hdropped]
      exact Int.mul_one _
    have hdistance : d.distance places (d.rounded places) =
        ((roundHalfEven d.coefficient (tenTo k) : Int) * tenTo k - d.coefficient).natAbs *
          tenTo places := by
      rw [distance_round hk, hrounded, signed_eq d, Int.mul_assoc, natAbs_sign_mul]
    have hpos := tenTo_pos places
    rw [hdistance, hk, Nat.add_comm places, tenTo_add, ← Nat.mul_assoc, hrounded]
    constructor
    · exact Nat.mul_le_mul_right _ hhalf
    · intro htie
      have hquotient := heven (Nat.eq_of_mul_eq_mul_right hpos htie)
      split <;> omega
  · have hexact : d.distance places (d.rounded places) = 0 := by
      have hzeros : tenTo places = tenTo (places - d.scale) * tenTo d.scale := by
        rw [← tenTo_add, Nat.sub_add_cancel hle]
      rw [distance, rounded, round_of_le hle, hzeros]
      push_cast
      rw [Int.mul_assoc, sub_self, Int.natAbs_zero]
    have hpos := tenTo_pos d.scale
    omega

theorem isMultiple_rescaleHalfEven (d : Decimal) (places : Nat) :
    (d.rescaleHalfEven places).IsMultiple places (d.rounded places) := by
  have hextend : (d.rescaleHalfEven places).SameNumber (d.round places) := sameNumber_extend _ _
  have hzeros : tenTo places =
      tenTo (d.round places).scale * tenTo (places - (d.round places).scale) := by
    rw [← tenTo_add, Nat.add_sub_cancel' (scale_round_le d places)]
  rw [SameNumber] at hextend
  rw [IsMultiple, rounded, hzeros]
  push_cast
  rw [← Int.mul_assoc, hextend]
  ring

theorem hasRoom_iff_rounded : d.HasRoom places ↔ (d.rounded places).natAbs < limit := by
  rw [rounded, Int.natAbs_mul, Int.natAbs_natCast, signed_natAbs]
  rcases Nat.lt_or_ge places d.scale with hlt | hle
  · have hfits : (d.round places).coefficient * tenTo (places - (d.round places).scale) < limit := by
      rw [scale_round hlt, Nat.sub_self]
      exact lt_of_eq_of_lt (Nat.mul_one _) (d.round places).coefficient_lt
    exact iff_of_true (hasRoom_of_le hlt.le) hfits
  · rw [round_of_le hle, HasRoom]

theorem scale_extend_le (d : Decimal) (steps : Nat) : (d.extend steps).scale ≤ d.scale + steps := by
  induction steps generalizing d with
  | zero => exact le_rfl
  | succ steps ih =>
      rw [extend]
      split
      · exact (ih _).trans_eq (by simp only; omega)
      · omega

theorem extend_extend (d : Decimal) (steps : Nat) :
    (d.extend steps).extend (d.scale + steps - (d.extend steps).scale) = d.extend steps := by
  induction steps generalizing d with
  | zero =>
      rw [extend, Nat.add_zero, Nat.sub_self]
      rfl
  | succ steps ih =>
      by_cases hroom : d.coefficient * 10 < limit ∧ d.scale < 28
      · have hadded := ih ⟨d.negative, d.coefficient * 10, d.scale + 1, hroom.1, hroom.2⟩
        rw [extend, dif_pos hroom, ← Nat.add_assoc, Nat.add_right_comm]
        exact hadded
      · have hfull : d.extend (steps + 1) = d := by rw [extend, dif_neg hroom]
        rw [hfull, Nat.add_sub_cancel_left, hfull]

theorem rescaleHalfEven_rescaleHalfEven (d : Decimal) (places : Nat) :
    (d.rescaleHalfEven places).rescaleHalfEven places = d.rescaleHalfEven places := by
  have hle := scale_round_le d places
  have hextend := (d.round places).extend_extend (places - (d.round places).scale)
  have hscale := (d.round places).scale_extend_le (places - (d.round places).scale)
  rw [Nat.add_sub_cancel' hle] at hextend hscale
  change (d.rescaleHalfEven places).extend _ = d.rescaleHalfEven places at hextend
  change (d.rescaleHalfEven places).scale ≤ places at hscale
  conv_lhs => rw [rescaleHalfEven, round_of_le hscale]
  exact hextend

/-- A decimal that is moved to a scale becomes the one multiple of the last place that is nearest,
ties going to the even digit. It stays the same number just if it has only zeros behind that place,
has the scale just if there is room for the multiple's coefficient, and stays as it is when it is
moved there again. -/
theorem rescaleHalfEven_rounds_once (d : Decimal) (places : Nat) :
    ∃ n, (∀ m, d.IsNearest places m ↔ m = n) ∧
      (d.rescaleHalfEven places).IsMultiple places n ∧
      ((d.rescaleHalfEven places).SameNumber d ↔
        ∀ place, places < place → d.digitAt place = 0) ∧
      ((d.rescaleHalfEven places).scale = places ↔ places ≤ 28 ∧ n.natAbs < limit) ∧
      (d.rescaleHalfEven places).rescaleHalfEven places = d.rescaleHalfEven places := by
  obtain ⟨hhalf, heven⟩ := d.distance_rounded_half places
  refine ⟨d.rounded places, ?_, d.isMultiple_rescaleHalfEven places, ?_, ?_,
    d.rescaleHalfEven_rescaleHalfEven places⟩
  · exact fun m => isNearest_iff_of_half hhalf heven
  · rw [sameNumber_rescaleHalfEven_iff, fitsScale_iff_digitAt]
  · rw [scale_rescaleHalfEven_iff, hasRoom_iff_rounded]

/-- A tie among negative numbers, with a carry over two digits. -/
example : ∃ d r, ofScaled? (-29995) 3 = some d ∧ ofScaled? (-3000) 2 = some r ∧
    d.rescaleHalfEven 2 = r :=
  ⟨_, _, rfl, rfl, rfl⟩

end Decimal

end TableTransfer
