import TableTransfer.Decimal.Basic

namespace TableTransfer.Decimal

theorem lt_limit_of_le {c k q : Nat} (hc : c < limit) (hk : k ≠ 0) (h : q ≤ c / tenTo k + 1) :
    q < limit := by
  have hdiv : c / tenTo k ≤ c / 10 := Nat.div_le_div_left (ten_le_tenTo hk) (by omega)
  simp only [limit] at *
  omega

/-- At most `places` places, a half going to the even digit. Zero has no sign afterwards. -/
def round (d : Decimal) (places : Nat) : Decimal :=
  if h : d.scale ≤ places then d
  else
    let n := roundHalfEven d.coefficient (tenTo (d.scale - places))
    { negative := d.negative && n != 0
      coefficient := n
      scale := places
      coefficient_lt := lt_limit_of_le d.coefficient_lt (by omega) (roundHalfEven_le ..)
      scale_le := by have := d.scale_le; omega }

/-- Up to `steps` more zeros at the end, as many as coefficient and scale have room for. -/
def extend (d : Decimal) : Nat → Decimal
  | 0 => d
  | steps + 1 =>
    if h : d.coefficient * 10 < limit ∧ d.scale < 28 then
      extend ⟨d.negative, d.coefficient * 10, d.scale + 1, h.1, h.2⟩ steps
    else d

/-- The scale `places`, or the largest below it that there is room for. -/
def rescaleHalfEven (d : Decimal) (places : Nat) : Decimal :=
  let r := d.round places
  r.extend (places - r.scale)

def rescaleExact? (d : Decimal) (places : Nat) : Option Decimal :=
  if (d.round places).SameNumber d then some (d.rescaleHalfEven places) else none

theorem round_of_le {d : Decimal} {places : Nat} (h : d.scale ≤ places) : d.round places = d := by
  simp [round, h]

theorem sameNumber_extend (d : Decimal) (steps : Nat) : (d.extend steps).SameNumber d := by
  induction steps generalizing d with
  | zero => rfl
  | succ steps ih =>
    simp only [extend]
    split
    · rename_i h
      have step := ih ⟨d.negative, d.coefficient * 10, d.scale + 1, h.1, h.2⟩
      generalize hr : extend ⟨d.negative, d.coefficient * 10, d.scale + 1, h.1, h.2⟩ steps = r
      simp only [SameNumber, hr, signed, tenTo_succ, Int.natCast_mul, Int.cast_ofNat_Int] at step ⊢
      apply Int.eq_of_mul_eq_mul_right (by decide : (10 : Int) ≠ 0)
      rw [Int.mul_assoc, step]
      split <;> grind
    · rfl

end TableTransfer.Decimal
