import Mathlib.Algebra.Order.Field.Power
import Mathlib.Data.Nat.Log
import Mathlib.Tactic.FieldSimp
import Mathlib.Tactic.Linarith
import Mathlib.Tactic.Positivity
import Mathlib.Tactic.Ring
import TableTransfer.Binary.Basic

namespace TableTransfer

theorem twoTo_eq (k : Nat) : twoTo k = 2 ^ k := rfl

theorem twoTo_pos (k : Nat) : 0 < twoTo k := Nat.two_pow_pos k

theorem twoTo_succ (k : Nat) : twoTo (k + 1) = 2 * twoTo k := Nat.pow_succ'

theorem zpow_mul_twoTo (e : Int) : (2 : ℚ) ^ e * twoTo (-e).toNat = twoTo e.toNat := by
  rw [twoTo_eq, twoTo_eq, Nat.cast_pow, Nat.cast_pow, Nat.cast_ofNat, ← zpow_natCast,
    ← zpow_natCast, ← zpow_add₀ (by norm_num)]
  congr 1
  omega

namespace Binary.Format

variable (f : Format)

def encode (m : Nat) (e : Int) : Nat := m + (e - f.least).toNat * twoTo f.fraction

/-- The one way in which `m * 2 ^ e` is written in the format. -/
structure Canonical (m : Nat) (e : Int) : Prop where
  least_le : f.least ≤ e
  lt : m < twoTo (f.fraction + 1)
  normal : twoTo f.fraction ≤ m ∨ e = f.least

variable {f}

theorem canonical_decode (magnitude : Nat) :
    f.Canonical (f.decode magnitude).1 (f.decode magnitude).2 := by
  have hpos := twoTo_pos f.fraction
  have hsucc := twoTo_succ f.fraction
  have hmod := Nat.mod_lt magnitude hpos
  simp only [decode]
  split
  · rename_i h
    have hlt := (Nat.div_eq_zero_iff_lt hpos).1 h
    exact ⟨le_rfl, by dsimp only; omega, .inr rfl⟩
  · rename_i h
    obtain ⟨k, hk⟩ := Nat.exists_eq_succ_of_ne_zero h
    rw [hk]
    exact ⟨by dsimp only; omega, by dsimp only; omega, .inl (by dsimp only; omega)⟩

theorem encode_decode (magnitude : Nat) :
    f.encode (f.decode magnitude).1 (f.decode magnitude).2 = magnitude := by
  simp only [decode, encode]
  split
  · simp
  · rename_i h
    obtain ⟨k, hk⟩ := Nat.exists_eq_succ_of_ne_zero h
    have hdiv := Nat.mod_add_div magnitude (twoTo f.fraction)
    have hexp : (f.least + (k.succ : Nat) - 1 - f.least).toNat = k := by omega
    rw [hk, Nat.mul_succ, Nat.mul_comm] at hdiv
    rw [hk, hexp]
    omega

theorem decode_encode {m : Nat} {e : Int} (h : f.Canonical m e) :
    f.decode (f.encode m e) = (m, e) := by
  have hpos := twoTo_pos f.fraction
  have hlt := h.lt
  rw [twoTo_succ] at hlt
  obtain ⟨k, rfl⟩ : ∃ k : Nat, e = f.least + k := ⟨(e - f.least).toNat, by have := h.least_le; omega⟩
  have hexp : (f.least + (k : Int) - f.least).toNat = k := by omega
  unfold decode encode
  rw [hexp, Nat.add_mul_div_right _ _ hpos, Nat.add_mul_mod_self_right]
  dsimp only
  by_cases hsmall : m < twoTo f.fraction
  · obtain rfl : k = 0 := by rcases h.normal with hnormal | hleast <;> omega
    simp [Nat.div_eq_of_lt hsmall]
  · have hone : m / twoTo f.fraction = 1 := Nat.div_eq_of_lt_le (by omega) (by omega)
    have hmod := Nat.mod_add_div m (twoTo f.fraction)
    rw [hone, Nat.mul_one] at hmod
    rw [hone, if_neg (by omega), hmod]
    congr 1
    omega

variable {m num den : Nat} {e : Int}

/-- The exponent of the last place of a number whose digits are counted against those of a
denominator: it is the right one, or one too high. -/
theorem log2_sub_log2 (hnum : num ≠ 0) (hden : den ≠ 0) :
    (2 : ℚ) ^ ((num.log2 : Int) - den.log2 - 1) < num / den ∧
      (num : ℚ) / den < 2 ^ ((num.log2 : Int) - den.log2 + 1) := by
  have hden' : (0 : ℚ) < den := by exact_mod_cast Nat.pos_of_ne_zero hden
  have hnum_le : (2 : ℚ) ^ (num.log2 : Int) ≤ num := by
    rw [zpow_natCast]; exact_mod_cast Nat.log2_self_le hnum
  have hnum_lt : (num : ℚ) < 2 ^ ((num.log2 : Int) + 1) := by
    have h := @Nat.lt_log2_self num
    rw [← Nat.cast_succ, zpow_natCast]; exact_mod_cast h
  have hden_le : (2 : ℚ) ^ (den.log2 : Int) ≤ den := by
    rw [zpow_natCast]; exact_mod_cast Nat.log2_self_le hden
  have hden_lt : (den : ℚ) < 2 ^ ((den.log2 : Int) + 1) := by
    have h := @Nat.lt_log2_self den
    rw [← Nat.cast_succ, zpow_natCast]; exact_mod_cast h
  have hpow (i : Int) : (0 : ℚ) < 2 ^ i := by positivity
  constructor
  · rw [lt_div_iff₀ hden']
    calc (2 : ℚ) ^ ((num.log2 : Int) - den.log2 - 1) * den
        < 2 ^ ((num.log2 : Int) - den.log2 - 1) * 2 ^ ((den.log2 : Int) + 1) :=
          mul_lt_mul_of_pos_left hden_lt (hpow _)
      _ = 2 ^ (num.log2 : Int) := by rw [← zpow_add₀ (by norm_num)]; congr 1; omega
      _ ≤ num := hnum_le
  · rw [div_lt_iff₀ hden']
    calc (num : ℚ) < 2 ^ ((num.log2 : Int) + 1) := hnum_lt
      _ = 2 ^ ((num.log2 : Int) - den.log2 + 1) * 2 ^ (den.log2 : Int) := by
          rw [← zpow_add₀ (by norm_num)]; congr 1; omega
      _ ≤ 2 ^ ((num.log2 : Int) - den.log2 + 1) * den :=
          mul_le_mul_of_nonneg_left hden_le (hpow _).le

theorem zpow_le_div_iff (hden : den ≠ 0) (k : Int) (a : Nat) :
    (2 : ℚ) ^ (k + a) ≤ num / den ↔
      den * twoTo k.toNat * twoTo a ≤ num * twoTo (-k).toNat := by
  have hden' : (0 : ℚ) < den := by exact_mod_cast Nat.pos_of_ne_zero hden
  have hscale : (0 : ℚ) < twoTo (-k).toNat := by exact_mod_cast twoTo_pos _
  have hpow := zpow_mul_twoTo k
  rw [le_div_iff₀ hden', ← mul_le_mul_iff_left₀ hscale, zpow_add₀ (by norm_num), zpow_natCast]
  have hleft : (2 : ℚ) ^ k * 2 ^ a * den * twoTo (-k).toNat =
      ((den * twoTo k.toNat * twoTo a : Nat) : ℚ) := by
    push_cast
    rw [← hpow, twoTo_eq a]
    push_cast
    ring
  rw [hleft]
  exact_mod_cast Iff.rfl

theorem exponent_eq (h : f.Canonical m e) (hnum : num ≠ 0) (hden : den ≠ 0)
    (hvalue : (num : ℚ) / den = m * 2 ^ e) :
    max (if (2 : ℚ) ^ ((num.log2 : Int) - den.log2 - f.fraction + f.fraction) ≤ num / den
      then (num.log2 : Int) - den.log2 - f.fraction
      else (num.log2 : Int) - den.log2 - f.fraction - 1) f.least = e := by
  obtain ⟨hlow, hhigh⟩ := log2_sub_log2 hnum hden
  have hpow : (0 : ℚ) < 2 ^ e := by positivity
  have hupper : (num : ℚ) / den < 2 ^ (f.fraction + 1 + e : Int) := by
    rw [hvalue, zpow_add₀ (by norm_num)]
    refine mul_lt_mul_of_pos_right ?_ hpow
    exact_mod_cast h.lt
  have hbelow := (zpow_lt_zpow_iff_right₀ (by norm_num : (1 : ℚ) < 2)).1 (hlow.trans hupper)
  rcases h.normal with hnormal | hleast
  · have hlower : (2 : ℚ) ^ (f.fraction + e : Int) ≤ num / den := by
      rw [hvalue, zpow_add₀ (by norm_num)]
      refine mul_le_mul_of_nonneg_right ?_ hpow.le
      exact_mod_cast hnormal
    have habove := (zpow_lt_zpow_iff_right₀ (by norm_num : (1 : ℚ) < 2)).1 (hlower.trans_lt hhigh)
    have hle := h.least_le
    split
    · rename_i hfits
      have := (zpow_lt_zpow_iff_right₀ (by norm_num : (1 : ℚ) < 2)).1 (hfits.trans_lt hupper)
      omega
    · rename_i hfits
      have hne : (num.log2 : Int) - den.log2 - f.fraction ≠ e := by
        rintro heq
        rw [heq, add_comm] at hfits
        exact hfits hlower
      omega
  · split
    · rename_i hfits
      have := (zpow_lt_zpow_iff_right₀ (by norm_num : (1 : ℚ) < 2)).1 (hfits.trans_lt hupper)
      omega
    · omega

theorem nearest_of_canonical (h : f.Canonical m e) (hden : den ≠ 0)
    (hvalue : (num : ℚ) / den = m * 2 ^ e) :
    f.nearest num den = min (f.encode m e) f.infinity := by
  have hden' : (den : ℚ) ≠ 0 := by exact_mod_cast hden
  have hproduct : num * twoTo (-e).toNat = m * (den * twoTo e.toNat) := by
    have hnum : (num : ℚ) = m * 2 ^ e * den := by rw [← hvalue, div_mul_cancel₀ _ hden']
    have hcast : ((num * twoTo (-e).toNat : Nat) : ℚ) = (m * (den * twoTo e.toNat) : Nat) := by
      push_cast
      rw [← zpow_mul_twoTo e, hnum]
      ring
    exact_mod_cast hcast
  have hscale : 0 < den * twoTo e.toNat := Nat.mul_pos (Nat.pos_of_ne_zero hden) (twoTo_pos _)
  by_cases hnum : num = 0
  · obtain rfl : m = 0 := by
      rw [hnum, Nat.zero_mul] at hproduct
      exact (Nat.mul_eq_zero.1 hproduct.symm).resolve_right (by omega)
    have hleast : e = f.least := h.normal.resolve_left (Nat.not_le.2 (twoTo_pos _))
    simp [nearest, hnum, encode, hleast]
  · have hexp := exponent_eq h hnum hden hvalue
    simp only [zpow_le_div_iff hden] at hexp
    have hround : roundHalfEven (num * twoTo (-e).toNat) (den * twoTo e.toNat) = m := by
      rw [hproduct, roundHalfEven_of_dvd hscale (Nat.dvd_mul_left _ _), Nat.mul_div_cancel _ hscale]
    unfold nearest
    rw [if_neg hnum]
    dsimp only
    rw [hexp, hround]
    rfl

end Binary.Format

theorem Binary.quotient_value (m : Nat) (e : Int) :
    ((Binary.quotient m e).1 : ℚ) / (Binary.quotient m e).2 = m * 2 ^ e := by
  have hscale : ((twoTo (-e).toNat : Nat) : ℚ) ≠ 0 := by exact_mod_cast (twoTo_pos _).ne'
  simp only [quotient]
  rw [div_eq_iff hscale]
  push_cast
  rw [mul_assoc, zpow_mul_twoTo]

end TableTransfer
