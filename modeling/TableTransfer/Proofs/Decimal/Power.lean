import TableTransfer.Proofs.Decimal.Reading

namespace TableTransfer

theorem roundHalfUp_of_dvd {num den : Nat} (hden : 0 < den) (h : den ∣ num) :
    roundHalfUp num den = num / den := by
  simp [roundHalfUp, Nat.mod_eq_zero_of_dvd h, hden]

namespace Decimal

variable {b d : Decimal} {n : Nat}

theorem signed_mul_eq {x y : Nat} (hsign : d.negative = b.negative)
    (h : d.coefficient * x = b.coefficient * y) : d.signed * x = b.signed * y := by
  have hcoefficient : (d.coefficient * x : ℤ) = b.coefficient * y := by exact_mod_cast h
  rw [signed_eq, signed_eq, hsign]
  linear_combination (if b.negative then -1 else 1) * hcoefficient

theorem toRat_eq_mul_iff : d.toRat = b.toRat * tenTo n ↔
    d.signed * tenTo b.scale = b.signed * (tenTo n * tenTo d.scale : Nat) := by
  rw [toRat, toRat, div_mul_eq_mul_div,
    div_eq_div_iff (cast_tenTo_ne_zero _) (cast_tenTo_ne_zero _), mul_assoc]
  exact_mod_cast Iff.rfl

theorem toRat_eq_div_iff :
    d.toRat = b.toRat / tenTo n ↔ d.signed * tenTo (b.scale + n) = b.signed * tenTo d.scale := by
  rw [toRat, toRat, div_div, ← Nat.cast_mul, ← tenTo_add,
    div_eq_div_iff (cast_tenTo_ne_zero _) (cast_tenTo_ne_zero _)]
  exact_mod_cast Iff.rfl

theorem toRat_strip (d : Decimal) (fuel : Nat) :
    (d.strip fuel).toRat = d.toRat ∧ (d.strip fuel).scale ≤ d.scale := by
  induction fuel generalizing d with
  | zero => exact ⟨rfl, le_rfl⟩
  | succ fuel ih =>
      by_cases h : 0 < d.scale ∧ d.coefficient % 10 = 0
      · have hstep : d.strip (fuel + 1) =
            strip ⟨d.negative, d.coefficient / 10, d.scale - 1, _, _⟩ fuel := dif_pos h
        obtain ⟨hsame, hle⟩ := ih ⟨d.negative, d.coefficient / 10, d.scale - 1, _, _⟩
        rw [hstep]
        refine ⟨hsame.trans (toRat_eq_iff.2 (signed_mul_eq rfl ?_)), hle.trans (Nat.sub_le ..)⟩
        obtain ⟨k, hk⟩ := Nat.exists_eq_add_of_lt h.1
        dsimp only
        rw [hk, Nat.zero_add, Nat.add_sub_cancel, tenTo_succ, Nat.mul_comm (tenTo k),
          ← Nat.mul_assoc, Nat.div_mul_cancel (Nat.dvd_of_mod_eq_zero h.2)]
      · have hstep : d.strip (fuel + 1) = d := dif_neg h
        rw [hstep]
        exact ⟨rfl, le_rfl⟩

theorem toRat_multiplyByPower (h : b.multiplyByPower n = .ok d) : d.toRat = b.toRat * tenTo n := by
  rw [multiplyByPower] at h
  split at h
  · next hle =>
    cases h
    refine toRat_eq_mul_iff.2 (signed_mul_eq rfl ?_)
    rw [← tenTo_add, Nat.add_sub_cancel' hle]
  split at h
  · cases h
  dsimp only at h
  split at h
  · next hbeyond _ hroom =>
    cases h
    obtain ⟨hsame, hscale⟩ := toRat_strip b 28
    rw [← hsame]
    refine toRat_eq_mul_iff.2 (signed_mul_eq rfl ?_)
    have hsum : n - (b.strip 28).scale + (b.strip 28).scale = n := by omega
    change (b.strip 28).coefficient * tenTo (n - (b.strip 28).scale) * tenTo (b.strip 28).scale = _
    rw [Nat.mul_assoc, ← tenTo_add, hsum]
    exact congrArg _ (Nat.mul_one _).symm
  · cases h

theorem toRat_divideByPower (h : b.divideByPower n = .ok d) (hheld : IsHeld (b.toRat / tenTo n)) :
    d.toRat = b.toRat / tenTo n := by
  rw [divideByPower] at h
  split at h
  · cases h
  split at h
  · cases h
    rw [toRat_eq_div_iff]
    rfl
  · next hscale =>
    cases h
    obtain ⟨e, he⟩ := hheld
    obtain ⟨j, hj⟩ : ∃ j, b.scale + n = j + 28 := ⟨b.scale + n - 28, by omega⟩
    obtain ⟨k, hk⟩ := Nat.exists_eq_add_of_le e.scale_le
    have hdvd : tenTo j ∣ b.coefficient := by
      have hsame := congrArg Int.natAbs (toRat_eq_div_iff.1 he)
      rw [Int.natAbs_mul, Int.natAbs_mul, signed_natAbs, signed_natAbs, Int.natAbs_natCast,
        Int.natAbs_natCast, hj, hk] at hsame
      refine ⟨e.coefficient * tenTo k, Nat.eq_of_mul_eq_mul_right (tenTo_pos e.scale) ?_⟩
      rw [← hsame, tenTo_add, tenTo_add]
      ring
    refine toRat_eq_div_iff.2 (signed_mul_eq rfl ?_)
    have hdropped : b.scale + n - 28 = j := by omega
    dsimp only
    rw [hdropped, roundHalfUp_of_dvd (tenTo_pos _) hdvd, hj, tenTo_add, ← Nat.mul_assoc,
      Nat.div_mul_cancel hdvd]

theorem isNear_toRat_mul (d : Decimal) (n : Nat) : IsNear (d.toRat * tenTo n) := by
  rcases Nat.le_total n d.scale with hle | hle
  · exact .inl ⟨_, toRat_multiplyByPower (if_pos hle)⟩
  · right
    obtain ⟨k, hk⟩ := Nat.exists_eq_add_of_le hle
    have hpos := cast_tenTo_ne_zero d.scale
    refine ⟨d.signed * tenTo k, ?_⟩
    rw [toRat, hk, tenTo_add]
    push_cast
    field_simp

section

variable {q : ℚ} (hread : IsNear q → b.toRat = q)
include hread

theorem toRat_eq_iff_of_multiply (h : b.multiplyByPower n = .ok d) :
    d.toRat = q * tenTo n ↔ IsHeld q ∧ IsHeld (q * tenTo n) := by
  have hmoved := toRat_multiplyByPower h
  constructor
  · intro heq
    rw [hmoved] at heq
    exact ⟨⟨b, mul_right_cancel₀ (cast_tenTo_ne_zero n) heq⟩, ⟨d, hmoved.trans heq⟩⟩
  · rintro ⟨hheld, -⟩
    rw [hmoved, hread (.inl hheld)]

theorem toRat_eq_iff_of_divide (h : b.divideByPower n = .ok d) :
    d.toRat = q / tenTo n ↔ IsHeld q ∧ IsHeld (q / tenTo n) := by
  constructor
  · intro heq
    have hnear := isNear_toRat_mul d n
    rw [heq, div_mul_cancel₀ _ (cast_tenTo_ne_zero n)] at hnear
    exact ⟨⟨b, hread hnear⟩, ⟨d, heq⟩⟩
  · rintro ⟨hheld, hmoved⟩
    have hb := hread (.inl hheld)
    rw [← hb] at hmoved ⊢
    exact toRat_divideByPower h hmoved

end

theorem dropWhile_plus_of_isDigit {cs : List Char} (h : ∀ c ∈ cs, c.isDigit = true) :
    cs.dropWhile (· == '+') = cs := by
  cases cs with
  | nil => rfl
  | cons c cs =>
      apply List.dropWhile_cons_of_neg
      rw [beq_iff_eq]
      rintro rfl
      exact absurd (h _ List.mem_cons_self) (by decide)

theorem unsigned_eq_self {cs : List Char} (h : cs.head? ≠ some '+') : unsigned cs = cs := if_neg h

theorem dropWhile_unsigned (cs : List Char) :
    (unsigned cs).dropWhile (· == '+') = cs.dropWhile (· == '+') := by
  by_cases h : cs.head? = some '+'
  · obtain ⟨ds, rfl⟩ := List.head?_eq_some_iff.1 h
    rfl
  · rw [unsigned_eq_self h]

theorem power?_eq_some {cs : List Char} (h : power? cs = some n) :
    (∀ c ∈ cs.dropWhile (· == '+'), c.isDigit = true) ∧
      Text.ofDigits (cs.dropWhile (· == '+')) = n := by
  obtain ⟨hnat, -⟩ := Option.filter_eq_some_iff.1 h
  rw [Text.nat?] at hnat
  split at hnat
  · next hdigits =>
    rw [Bool.and_eq_true, List.all_eq_true] at hdigits
    rw [← dropWhile_unsigned, dropWhile_plus_of_isDigit hdigits.2]
    exact ⟨hdigits.2, Option.some.inj hnat⟩
  · cases hnat

theorem splitSign_of_not_minus {cs : List Char} (h : ∀ ds, cs = '-' :: ds → False) :
    Numeral.splitSign cs = (false, unsigned cs) := by
  rw [Numeral.splitSign.eq_def]
  split
  · exact absurd rfl (h _)
  · rfl
  · next hplus =>
    rw [unsigned_eq_self]
    intro hhead
    obtain ⟨ds, rfl⟩ := List.head?_eq_some_iff.1 hhead
    exact hplus ds rfl

section

variable {cs ds : List Char} {negative : Bool}
  (hpower : Numeral.splitSign (cs.dropWhile fun c => !isPowerMark c).tail = (negative, ds))
include hpower

theorem isProper_ofText
    (hproper : (Numeral.ofPlain (cs.takeWhile fun c => !isPowerMark c)).IsProper)
    (hdigits : ∀ c ∈ ds.dropWhile (· == '+'), c.isDigit = true) :
    (Numeral.ofText cs).IsProper := by
  refine ⟨hproper.whole, hproper.places, hproper.digit, ?_⟩
  simp only [Numeral.ofText, hpower]
  exact hdigits

theorem toRat_ofText : (Numeral.ofText cs).toRat =
    if negative then (Numeral.ofText cs).base / tenTo (Text.ofDigits (ds.dropWhile (· == '+')))
    else (Numeral.ofText cs).base * tenTo (Text.ofDigits (ds.dropWhile (· == '+'))) := by
  rw [Numeral.toRat, Numeral.exponent, cast_tenTo]
  simp only [Numeral.ofText, hpower]
  cases negative with
  | true => rw [if_pos rfl, if_pos rfl, zpow_neg, zpow_natCast, div_eq_mul_inv]
  | false => rw [if_neg Bool.false_ne_true, if_neg Bool.false_ne_true, zpow_natCast]

end

/-- A text that is accepted is a number in digits. It is read as its number just if decimals hold
the number before the power of ten and the number itself. -/
theorem ofText_reads {cs : List Char} (h : ofText cs = .ok d) :
    (Numeral.ofText cs).IsProper ∧ (d.toRat = (Numeral.ofText cs).toRat ↔
      IsHeld (Numeral.ofText cs).base ∧ IsHeld (Numeral.ofText cs).toRat) := by
  rw [ofText] at h
  split at h
  · next hnone =>
    have hpower : Numeral.splitSign (cs.dropWhile fun c => !isPowerMark c).tail = (false, []) := by
      rw [hnone]
      rfl
    have hplain : (cs.takeWhile fun c => !isPowerMark c) = cs := by
      have happend := List.takeWhile_append_dropWhile (p := fun c => !isPowerMark c) (l := cs)
      rwa [hnone, List.append_nil] at happend
    rw [← hplain] at h
    obtain ⟨hproper, hread⟩ := ofPlainText_reads h
    refine ⟨isProper_ofText hpower hproper fun c hc => absurd hc List.not_mem_nil, ?_⟩
    rw [toRat_ofText hpower, if_neg Bool.false_ne_true]
    exact toRat_eq_iff_of_multiply hread (if_pos (Nat.zero_le _))
  · next mark power hmark =>
    cases hb : ofPlainText (cs.takeWhile fun c => !isPowerMark c) with
    | error fault =>
        rw [hb] at h
        cases h
    | ok b =>
        rw [hb] at h
        obtain ⟨hproper, hread⟩ := ofPlainText_reads hb
        dsimp only [bind, Except.bind] at h
        split at h
        · next ds =>
          have hpower : Numeral.splitSign (cs.dropWhile fun c => !isPowerMark c).tail =
              (true, ds) := by
            rw [hmark]
            rfl
          split at h
          · next n hn =>
            obtain ⟨hdigits, hvalue⟩ := power?_eq_some hn
            refine ⟨isProper_ofText hpower hproper hdigits, ?_⟩
            rw [toRat_ofText hpower, if_pos rfl, hvalue]
            exact toRat_eq_iff_of_divide hread h
          · cases h
        · next hminus =>
          have hpower : Numeral.splitSign (cs.dropWhile fun c => !isPowerMark c).tail =
              (false, unsigned power) := by
            rw [hmark]
            exact splitSign_of_not_minus hminus
          split at h
          · next n hn =>
            obtain ⟨hdigits, hvalue⟩ := power?_eq_some hn
            refine ⟨isProper_ofText hpower hproper hdigits, ?_⟩
            rw [toRat_ofText hpower, if_neg Bool.false_ne_true, hvalue]
            exact toRat_eq_iff_of_multiply hread h
          · cases h

end Decimal

end TableTransfer
