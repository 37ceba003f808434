import TableTransfer.Proofs.Binary.Nearest

namespace TableTransfer

open Binary

theorem Binary64.magnitude_ofMagnitude (negative : Bool) {m : Nat} (h : m < twoTo 63) :
    (ofMagnitude negative m).magnitude = m := by
  have hbound : twoTo 63 = 9223372036854775808 := rfl
  rw [hbound] at h
  simp only [magnitude, ofMagnitude]
  rw [UInt64.toNat_ofNat', hbound]
  cases negative <;> simp <;> omega

theorem Binary64.negative_ofMagnitude (negative : Bool) {m : Nat} (h : m < twoTo 63) :
    (ofMagnitude negative m).negative = negative := by
  have hbound : twoTo 63 = 9223372036854775808 := rfl
  rw [hbound] at h
  unfold Binary64.negative ofMagnitude
  rw [UInt64.toNat_ofNat', hbound]
  cases negative <;> simp <;> omega

theorem Binary32.ofMagnitude_magnitude (x : Binary32) :
    ofMagnitude x.negative x.magnitude = x := by
  have hbound : twoTo 31 = 2147483648 := rfl
  have hlt := x.bits.toNat_lt
  unfold ofMagnitude magnitude negative
  rw [hbound]
  obtain ⟨bits⟩ := x
  congr 1
  apply UInt32.toNat_inj.1
  rw [UInt32.toNat_ofNat']
  dsimp only at hlt ⊢
  split <;> rename_i h <;> simp only [decide_eq_true_eq] at h <;> omega

theorem exponent_le_of_finite {magnitude : Nat} (h : magnitude < single.infinity) :
    (single.decode magnitude).2 ≤ 104 := by
  have hinf : single.infinity = 255 * 8388608 := rfl
  have hfrac : twoTo single.fraction = 8388608 := rfl
  have hleast : single.least = -149 := rfl
  rw [hinf] at h
  unfold Format.decode
  rw [hfrac, hleast]
  dsimp only
  split
  · dsimp only; omega
  · dsimp only; omega

theorem exists_canonical_double {m : Nat} {e : Int} (h : single.Canonical m e) (he : e ≤ 104) :
    ∃ m' e', double.Canonical m' e' ∧ (m' : ℚ) * 2 ^ e' = m * 2 ^ e ∧
      double.encode m' e' < double.infinity := by
  have hinf : double.infinity = 2047 * 4503599627370496 := rfl
  have hfrac : twoTo double.fraction = 4503599627370496 := rfl
  have hfrac' : twoTo (double.fraction + 1) = 9007199254740992 := rfl
  have hleast : double.least = -1074 := rfl
  by_cases hm : m = 0
  · exact ⟨0, double.least, ⟨le_rfl, by decide, .inr rfl⟩, by simp [hm], by decide⟩
  · have hlt : m < 2 ^ 24 := h.lt
    have hleast' : -149 ≤ e := h.least_le
    have hlog : m.log2 ≤ 23 := by
      have := (Nat.log2_lt hm).2 hlt
      omega
    have hlow : 2 ^ 52 ≤ m * 2 ^ (52 - m.log2) := by
      calc 2 ^ 52 = 2 ^ m.log2 * 2 ^ (52 - m.log2) := by rw [← pow_add]; congr 1; omega
        _ ≤ m * 2 ^ (52 - m.log2) := Nat.mul_le_mul_right _ (Nat.log2_self_le hm)
    have hhigh : m * 2 ^ (52 - m.log2) < 2 ^ 53 := by
      calc m * 2 ^ (52 - m.log2) < 2 ^ (m.log2 + 1) * 2 ^ (52 - m.log2) :=
            Nat.mul_lt_mul_of_pos_right Nat.lt_log2_self (Nat.two_pow_pos _)
        _ = 2 ^ 53 := by rw [← pow_add]; congr 1; omega
    refine ⟨m * 2 ^ (52 - m.log2), e - (52 - m.log2 : Nat), ⟨?_, hhigh, .inl hlow⟩, ?_, ?_⟩
    · rw [hleast]; omega
    · push_cast
      rw [mul_assoc, ← zpow_natCast, ← zpow_add₀ (by norm_num)]
      congr 2
      omega
    · simp only [Format.encode]
      rw [hfrac, hinf, hleast]
      omega

theorem Binary32.widen_of_finite {x : Binary32} (h : x.magnitude < single.infinity) :
    ∃ m e, double.Canonical m e ∧ double.encode m e < double.infinity ∧
      x.widen = .ofMagnitude x.negative (double.encode m e) ∧
      (m : ℚ) * 2 ^ e = (single.decode x.magnitude).1 * 2 ^ (single.decode x.magnitude).2 := by
  obtain ⟨m, e, hcanonical, hvalue, hfinite⟩ :=
    exists_canonical_double (Format.canonical_decode x.magnitude) (exponent_le_of_finite h)
  refine ⟨m, e, hcanonical, hfinite, ?_, hvalue⟩
  have hquotient := quotient_value (single.decode x.magnitude).1 (single.decode x.magnitude).2
  have hden : (quotient (single.decode x.magnitude).1 (single.decode x.magnitude).2).2 ≠ 0 :=
    (twoTo_pos _).ne'
  have hnearest := Format.nearest_of_canonical hcanonical hden (hquotient.trans hvalue.symm)
  unfold widen isNaN
  rw [decide_eq_false (Nat.not_lt.2 h.le), if_neg Bool.false_ne_true, if_pos h]
  dsimp only
  rw [hnearest, Nat.min_eq_left hfinite.le]

theorem Binary32.narrow_widen {x : Binary32} (h : x.isNaN = false) : x.widen.narrow = x := by
  have hinf : double.infinity < twoTo 63 := by decide
  have hle : x.magnitude ≤ single.infinity := by simpa [isNaN] using h
  rcases Nat.lt_or_eq_of_le hle with hfinite | heq
  · obtain ⟨m, e, hcanonical, hencode, hwiden, hvalue⟩ := widen_of_finite hfinite
    have hmagnitude := Binary64.magnitude_ofMagnitude x.negative (hencode.trans hinf)
    have hnegative := Binary64.negative_ofMagnitude x.negative (hencode.trans hinf)
    have hquotient := quotient_value m e
    have hden : (quotient m e).2 ≠ 0 := (twoTo_pos _).ne'
    have hnearest := Format.nearest_of_canonical (Format.canonical_decode x.magnitude) hden
      (hquotient.trans hvalue)
    rw [hwiden, Binary64.narrow, Binary64.isNaN, Binary64.isFinite, hmagnitude, hnegative,
      decide_eq_false (Nat.not_lt.2 hencode.le), decide_eq_true hencode,
      Format.decode_encode hcanonical]
    simp only [Bool.false_eq_true, if_false, if_true]
    rw [hnearest, Format.encode_decode, Nat.min_eq_left hle, ofMagnitude_magnitude]
  · have hmagnitude := Binary64.magnitude_ofMagnitude x.negative hinf
    have hnegative := Binary64.negative_ofMagnitude x.negative hinf
    have hwiden : x.widen = .ofMagnitude x.negative double.infinity := by
      simp only [widen]
      rw [h, heq]
      simp
    rw [hwiden, Binary64.narrow, Binary64.isNaN, Binary64.isFinite, hmagnitude, hnegative]
    simp only [lt_irrefl, decide_false, Bool.false_eq_true, if_false]
    rw [← heq, ofMagnitude_magnitude]

theorem Binary32.isNaN_narrow_widen {x : Binary32} (h : x.isNaN = true) :
    x.widen.narrow.isNaN = true := by
  simp only [widen]
  rw [if_pos h]
  rfl

end TableTransfer
