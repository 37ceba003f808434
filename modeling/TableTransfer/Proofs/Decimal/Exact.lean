import Mathlib.Tactic.ByContra
import Mathlib.Tactic.LinearCombination
import Mathlib.Tactic.Ring
import TableTransfer.Decimal.Rescale

namespace TableTransfer

theorem tenTo_add (j k : Nat) : tenTo (j + k) = tenTo j * tenTo k := Nat.pow_add 10 j k

theorem tenTo_le_tenTo {j k : Nat} (h : j ≤ k) : tenTo j ≤ tenTo k :=
  Nat.pow_le_pow_right (by decide) h

namespace Decimal

/-- No digit other than zero after that many places. -/
def FitsScale (d : Decimal) (places : Nat) : Prop := tenTo (d.scale - places) ∣ d.coefficient

theorem SameNumber.trans {d e f : Decimal} (h : d.SameNumber e) (h' : e.SameNumber f) :
    d.SameNumber f := by
  have hpos : (tenTo e.scale : Int) ≠ 0 := Int.natCast_ne_zero.2 (tenTo_pos _).ne'
  apply Int.eq_of_mul_eq_mul_right hpos
  calc d.signed * tenTo f.scale * tenTo e.scale
      = d.signed * tenTo e.scale * tenTo f.scale := by ring
    _ = e.signed * tenTo f.scale * tenTo d.scale := by rw [h]; ring
    _ = f.signed * tenTo d.scale * tenTo e.scale := by rw [h']; ring

theorem signed_round {d : Decimal} {places : Nat} (h : places < d.scale) :
    (d.round places).signed =
      (if d.negative then -1 else 1) * roundHalfEven d.coefficient (tenTo (d.scale - places)) := by
  rw [round, dif_neg h.not_ge]
  dsimp only [signed]
  by_cases hzero : roundHalfEven d.coefficient (tenTo (d.scale - places)) = 0
  · simp [hzero]
  · cases d.negative <;> simp [hzero]

theorem signed_eq (d : Decimal) :
    d.signed = (if d.negative then -1 else 1) * d.coefficient := by
  simp only [signed]
  split <;> simp

theorem scale_round {d : Decimal} {places : Nat} (h : places < d.scale) :
    (d.round places).scale = places := by
  rw [round, dif_neg h.not_ge]

/-- Rounding keeps the number of the decimals that lose no digit, and of no others. -/
theorem sameNumber_round_iff {d : Decimal} {places : Nat} :
    (d.round places).SameNumber d ↔ d.FitsScale places := by
  simp only [FitsScale]
  rcases Nat.lt_or_ge places d.scale with h | h
  · obtain ⟨k, hk⟩ := Nat.exists_eq_add_of_lt h
    have hkeep : d.scale - places = k + 1 := by omega
    have hscale : (tenTo d.scale : Int) = tenTo (k + 1) * tenTo places := by
      rw [hk, Nat.add_assoc, Nat.add_comm places, tenTo_add, Int.natCast_mul]
    have hpos : (tenTo places : Int) ≠ 0 := Int.natCast_ne_zero.2 (tenTo_pos _).ne'
    have hsign : (if d.negative then -1 else 1 : Int) ≠ 0 := by split <;> decide
    simp only [SameNumber]
    rw [signed_round h, scale_round h, signed_eq d, hkeep, hscale]
    generalize (if d.negative then -1 else 1 : Int) = sign at hsign
    constructor
    · intro heq
      have hcoefficient : roundHalfEven d.coefficient (tenTo (k + 1)) * tenTo (k + 1) =
          d.coefficient := by
        have : (sign * tenTo places : Int) *
            (roundHalfEven d.coefficient (tenTo (k + 1)) * tenTo (k + 1)) =
            (sign * tenTo places) * d.coefficient := by linear_combination heq
        exact_mod_cast Int.eq_of_mul_eq_mul_left (mul_ne_zero hsign hpos) this
      exact ⟨_, by rw [Nat.mul_comm, hcoefficient]⟩
    · intro hdvd
      rw [roundHalfEven_of_dvd (tenTo_pos _) hdvd]
      have hcoefficient : (d.coefficient / tenTo (k + 1) * tenTo (k + 1) : Int) =
          d.coefficient := by exact_mod_cast Nat.div_mul_cancel hdvd
      push_cast
      linear_combination sign * tenTo places * hcoefficient
  · rw [round_of_le h, Nat.sub_eq_zero_of_le h]
    exact iff_of_true (.refl d) (Nat.one_dvd _)

theorem FitsScale.rescaleExact? {d : Decimal} {places : Nat} (h : d.FitsScale places) :
    d.rescaleExact? places = some (d.rescaleHalfEven places) ∧
      (d.rescaleHalfEven places).SameNumber d := by
  have hround := sameNumber_round_iff.2 h
  exact ⟨if_pos hround, (sameNumber_extend _ _).trans hround⟩

theorem fitsScale_of_scale_le {d : Decimal} {places : Nat} (h : d.scale ≤ places) :
    d.FitsScale places := by
  rw [FitsScale, Nat.sub_eq_zero_of_le h]
  exact Nat.one_dvd _

theorem fitsScale_of_coefficient {d : Decimal} (h : d.coefficient = 0) (places : Nat) :
    d.FitsScale places := by
  rw [FitsScale, h]
  exact Nat.dvd_zero _

theorem sameNumber_rescaleHalfEven_iff {d : Decimal} {places : Nat} :
    (d.rescaleHalfEven places).SameNumber d ↔ d.FitsScale places := by
  have hextend : (d.rescaleHalfEven places).SameNumber (d.round places) := sameNumber_extend _ _
  rw [← sameNumber_round_iff]
  exact ⟨hextend.symm.trans, hextend.trans⟩

theorem rescaleExact?_eq_none {d : Decimal} {places : Nat} (h : ¬d.FitsScale places) :
    d.rescaleExact? places = none := if_neg (mt sameNumber_round_iff.1 h)

def oneAt (place : Nat) (h : place ≤ 28) : Decimal :=
  { ofInt64 1 with scale := place, scale_le := h }

theorem fitsScale_oneAt_iff {place places : Nat} (h : place ≤ 28) :
    (oneAt place h).FitsScale places ↔ place ≤ places := by
  constructor
  · intro hfits
    have hone : tenTo (place - places) ≤ 1 := Nat.le_of_dvd Nat.one_pos hfits
    by_contra hlt
    have hten := ten_le_tenTo (k := place - places) (by omega)
    omega
  · exact fun hle => fitsScale_of_scale_le (d := oneAt place h) hle

end Decimal

end TableTransfer
