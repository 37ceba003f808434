import Mathlib.Data.List.Induction
import TableTransfer.Decimal.Unscaled

namespace TableTransfer

/-- The bytes stand for the number, which takes more bytes in every other form. -/
structure IsShortest (bytes : List UInt8) (n : Int) : Prop where
  ne_nil : bytes ≠ []
  value : ofTwosComplement bytes = n
  length_lt : ∀ other, other ≠ [] → ofTwosComplement other = n → other ≠ bytes →
    bytes.length < other.length

theorem signByte_signByte (b : UInt8) : signByte (signByte b) = signByte b := by
  by_cases h : b < 128
  · simp [signByte, h]
  · simp [signByte, h]

theorem ofTwosComplement_signByte (b : UInt8) (rest : List UInt8) :
    ofTwosComplement (signByte b :: b :: rest) = ofTwosComplement (b :: rest) := by
  by_cases h : b < 128
  · simp [ofTwosComplement, signByte, h]
  · have hstart : (-256 + b.toNat : Int) = b.toNat - 256 := by omega
    simp [ofTwosComplement, signByte, h, hstart]

theorem dropSign_signByte (b : UInt8) (rest : List UInt8) :
    dropSign (signByte b :: b :: rest) = dropSign (b :: rest) := if_pos rfl

/-- What does not depend on one repeated sign does not depend on the width. -/
theorem extendSign_congr {α : Type} (f : List UInt8 → α)
    (h : ∀ b rest, f (signByte b :: b :: rest) = f (b :: rest)) (width : Nat)
    (bytes : List UInt8) : f (extendSign width bytes) = f bytes := by
  cases bytes with
  | nil => rfl
  | cons b rest =>
      rw [extendSign]
      generalize width - (rest.length + 1) = k
      induction k generalizing b rest with
      | zero => rfl
      | succ k ih =>
          have hmore := ih (signByte b) (b :: rest)
          rw [signByte_signByte] at hmore
          rw [List.replicate_succ', List.append_assoc]
          exact hmore.trans (h b rest)

theorem length_extendSign {width : Nat} {bytes : List UInt8} (hne : bytes ≠ [])
    (hlength : bytes.length ≤ width) : (extendSign width bytes).length = width := by
  cases bytes with
  | nil => exact absurd rfl hne
  | cons b rest =>
      rw [List.length_cons] at hlength
      simp [extendSign]
      omega

theorem ofTwosComplement_extendSign (width : Nat) (bytes : List UInt8) :
    ofTwosComplement (extendSign width bytes) = ofTwosComplement bytes :=
  extendSign_congr _ ofTwosComplement_signByte width bytes

theorem dropSign_extendSign (width : Nat) (bytes : List UInt8) :
    dropSign (extendSign width bytes) = dropSign bytes :=
  extendSign_congr _ dropSign_signByte width bytes

theorem ofTwosComplement_dropSign (bytes : List UInt8) :
    ofTwosComplement (dropSign bytes) = ofTwosComplement bytes := by
  fun_induction dropSign bytes with
  | case1 next rest ih => rw [ih, ofTwosComplement_signByte]
  | case2 | case3 => rfl

theorem dropSign_suffix (bytes : List UInt8) : dropSign bytes <:+ bytes := by
  fun_induction dropSign bytes with
  | case1 next rest ih => exact ih.trans (List.suffix_cons _ _)
  | case2 | case3 => exact List.suffix_refl _

theorem dropSign_ne_nil {bytes : List UInt8} (h : bytes ≠ []) : dropSign bytes ≠ [] := by
  fun_induction dropSign bytes with
  | case1 next rest ih => exact ih (List.cons_ne_nil _ _)
  | case2 => exact List.cons_ne_nil _ _
  | case3 => exact h

theorem ofTwosComplement_append_singleton {bytes : List UInt8} (h : bytes ≠ []) (b : UInt8) :
    ofTwosComplement (bytes ++ [b]) = 256 * ofTwosComplement bytes + b.toNat := by
  cases bytes with
  | nil => exact absurd rfl h
  | cons first rest => simp [ofTwosComplement]

theorem ofTwosComplement_singleton (b : UInt8) :
    ofTwosComplement [b] = if b.toNat < 128 then (b.toNat : Int) else b.toNat - 256 := rfl

theorem ofTwosComplement_singleton_injective {b c : UInt8}
    (h : ofTwosComplement [b] = ofTwosComplement [c]) : b = c := by
  have hb := b.toNat_lt
  have hc := c.toNat_lt
  rw [ofTwosComplement_singleton, ofTwosComplement_singleton] at h
  apply UInt8.toNat_inj.1
  split at h <;> split at h <;> omega

theorem eq_of_ofTwosComplement {bytes other : List UInt8} (hlength : bytes.length = other.length)
    (h : ofTwosComplement bytes = ofTwosComplement other) : bytes = other := by
  induction bytes using List.reverseRecOn generalizing other with
  | nil => exact (List.length_eq_zero_iff.1 hlength.symm).symm
  | append_singleton bytes b ih =>
      obtain rfl | ⟨other, c, rfl⟩ := List.eq_nil_or_concat other
      · simp at hlength
      rw [List.concat_eq_append] at hlength h ⊢
      have hlength : bytes.length = other.length := by simpa using hlength
      by_cases hbytes : bytes = []
      · subst hbytes
        obtain rfl : other = [] := List.length_eq_zero_iff.1 hlength.symm
        rw [ofTwosComplement_singleton_injective h]
      · have hother : other ≠ [] := by
          rintro rfl
          exact hbytes (List.length_eq_zero_iff.1 hlength)
        rw [ofTwosComplement_append_singleton hbytes,
          ofTwosComplement_append_singleton hother] at h
        have hb := b.toNat_lt
        have hc := c.toNat_lt
        have hfront : ofTwosComplement bytes = ofTwosComplement other := by omega
        have hlast : b = c := UInt8.toNat_inj.1 (by omega)
        rw [ih hlength hfront, hlast]

theorem dropSign_eq_of_ofTwosComplement {bytes other : List UInt8} (hbytes : bytes ≠ [])
    (hother : other ≠ []) (h : ofTwosComplement bytes = ofTwosComplement other) :
    dropSign bytes = dropSign other := by
  let width := max bytes.length other.length
  have hwide : extendSign width bytes = extendSign width other := by
    apply eq_of_ofTwosComplement
    · rw [length_extendSign hbytes (Nat.le_max_left _ _),
        length_extendSign hother (Nat.le_max_right _ _)]
    · rw [ofTwosComplement_extendSign, ofTwosComplement_extendSign, h]
  calc dropSign bytes = dropSign (extendSign width bytes) := (dropSign_extendSign ..).symm
    _ = dropSign (extendSign width other) := by rw [hwide]
    _ = dropSign other := dropSign_extendSign ..

theorem isShortest_dropSign {bytes : List UInt8} (h : bytes ≠ []) :
    IsShortest (dropSign bytes) (ofTwosComplement bytes) where
  ne_nil := dropSign_ne_nil h
  value := ofTwosComplement_dropSign bytes
  length_lt := by
    intro other hother hvalue hne
    have hsuffix : dropSign bytes <:+ other := by
      rw [← dropSign_eq_of_ofTwosComplement hother h hvalue]
      exact dropSign_suffix other
    apply Nat.lt_of_le_of_ne hsuffix.length_le
    intro hlength
    exact hne (hsuffix.eq_of_length hlength).symm

theorem length_twosComplement (width : Nat) (n : Int) :
    (twosComplement width n).length = width := by
  induction width generalizing n with
  | zero => rfl
  | succ width ih => simp [twosComplement, ih]

theorem toNat_lastByte (n : Int) : ((UInt8.ofNat (n % 256).toNat).toNat : Int) = n % 256 := by
  rw [UInt8.toNat_ofNat_of_lt' (by rw [UInt8.size]; omega)]
  omega

theorem ofTwosComplement_twosComplement {width : Nat} {n : Int}
    (hlow : -(128 * twoTo (8 * width)) ≤ n) (hhigh : n < 128 * twoTo (8 * width)) :
    ofTwosComplement (twosComplement (width + 1) n) = n := by
  induction width generalizing n with
  | zero =>
      have hone : twoTo (8 * 0) = 1 := rfl
      have hlast := toNat_lastByte n
      rw [hone] at hlow hhigh
      rw [twosComplement, twosComplement, List.nil_append, ofTwosComplement_singleton]
      split <;> omega
  | succ width ih =>
      have hpower : twoTo (8 * (width + 1)) = twoTo (8 * width) * 256 :=
        Nat.pow_add 2 (8 * width) 8
      rw [hpower, Int.natCast_mul] at hlow hhigh
      have hne : twosComplement (width + 1) (n / 256) ≠ [] := by simp [twosComplement]
      have hfront := ih (n := n / 256) (by omega) (by omega)
      have hlast := toNat_lastByte n
      rw [twosComplement, ofTwosComplement_append_singleton hne, hfront]
      omega

namespace Decimal

theorem ofScaled?_eq_some {n : Int} {scale : Nat} {d : Decimal} (h : ofScaled? n scale = some d) :
    d.signed = n ∧ d.scale = scale := by
  rw [ofScaled?] at h
  split at h
  · obtain rfl := Option.some.inj h
    refine ⟨?_, rfl⟩
    simp only [signed, decide_eq_true_eq]
    split <;> omega
  · cases h

theorem ofScaled?_eq_none_iff {n : Int} {scale : Nat} :
    ofScaled? n scale = none ↔ limit ≤ n.natAbs ∨ 28 < scale := by
  rw [ofScaled?, dite_eq_right_iff]
  simp only [reduceCtorEq, imp_false, not_and_or, Nat.not_lt, Nat.not_le]

theorem ofUnscaledBytes?_of_length {bytes : List UInt8} (hne : bytes ≠ [])
    (hlength : bytes.length ≤ 16) (scale : Nat) :
    ofUnscaledBytes? bytes scale = ofScaled? (ofTwosComplement bytes) scale := by
  rw [ofUnscaledBytes?, ofTwosComplement_extendSign, if_neg]
  simp [hne, hlength]

theorem length_of_ofUnscaledBytes? {bytes : List UInt8} {scale : Nat} {d : Decimal}
    (h : ofUnscaledBytes? bytes scale = some d) : bytes ≠ [] ∧ bytes.length ≤ 16 := by
  rw [ofUnscaledBytes?] at h
  split at h
  · cases h
  · rename_i hsize
    simpa using hsize

theorem ofTwosComplement_word (d : Decimal) :
    ofTwosComplement (twosComplement 16 d.signed) = d.signed := by
  have hsigned := d.signed_natAbs
  have hcoefficient := d.coefficient_lt
  have hpower : twoTo (8 * 15) = 0x1000000000000000000000000000000 := rfl
  rw [limit] at hcoefficient
  apply ofTwosComplement_twosComplement
  · rw [hpower]
    omega
  · rw [hpower]
    omega

theorem isShortest_unscaledBytes (d : Decimal) : IsShortest d.unscaledBytes d.signed := by
  have hne : twosComplement 16 d.signed ≠ [] := by simp [twosComplement]
  have hshortest := isShortest_dropSign hne
  rwa [ofTwosComplement_word] at hshortest

theorem length_unscaledBytes_le (d : Decimal) : d.unscaledBytes.length ≤ 16 := by
  have hle := (dropSign_suffix (twosComplement 16 d.signed)).length_le
  rwa [length_twosComplement] at hle

/-- A decimal is written in the fewest bytes for its coefficient and is read from them again.
Whatever bytes it is read from, it is written in the fewest for their number; bytes are refused just
if there are none or too many of them, or if number or scale are too large. -/
theorem unscaledBytes_canonical (d : Decimal) (bytes : List UInt8) (scale : Nat) :
    IsShortest d.unscaledBytes d.signed ∧
      (∃ e, ofUnscaledBytes? d.unscaledBytes d.scale = some e ∧ e.scale = d.scale ∧
        e.SameNumber d) ∧
      (ofUnscaledBytes? bytes scale = some d →
        d.scale = scale ∧ IsShortest d.unscaledBytes (ofTwosComplement bytes)) ∧
      (ofUnscaledBytes? bytes scale = none ↔
        bytes = [] ∨ 16 < bytes.length ∨ limit ≤ (ofTwosComplement bytes).natAbs ∨
          28 < scale) := by
  have hshortest := d.isShortest_unscaledBytes
  refine ⟨hshortest, ?_, ?_, ?_⟩
  · have hread : ofUnscaledBytes? d.unscaledBytes d.scale = ofScaled? d.signed d.scale := by
      rw [ofUnscaledBytes?_of_length hshortest.ne_nil d.length_unscaledBytes_le, hshortest.value]
    cases hscaled : ofScaled? d.signed d.scale with
    | none =>
        rw [ofScaled?_eq_none_iff, d.signed_natAbs] at hscaled
        have hcoefficient := d.coefficient_lt
        have hscale := d.scale_le
        omega
    | some e =>
        obtain ⟨hsigned, hscale⟩ := ofScaled?_eq_some hscaled
        refine ⟨e, hread.trans hscaled, hscale, ?_⟩
        rw [SameNumber, hsigned, hscale]
  · intro h
    obtain ⟨hne, hlength⟩ := length_of_ofUnscaledBytes? h
    rw [ofUnscaledBytes?_of_length hne hlength] at h
    obtain ⟨hsigned, hscale⟩ := ofScaled?_eq_some h
    rw [hsigned] at hshortest
    exact ⟨hscale, hshortest⟩
  · by_cases hne : bytes = []
    · simp [hne, ofUnscaledBytes?]
    by_cases hlength : bytes.length ≤ 16
    · rw [ofUnscaledBytes?_of_length hne hlength, ofScaled?_eq_none_iff]
      simp [hne, Nat.not_lt_of_le hlength]
    · have hlong : 16 < bytes.length := Nat.lt_of_not_le hlength
      simp [hlong, ofUnscaledBytes?]

theorem unscaledBytes_canonical_padded :
    ∃ d, ofUnscaledBytes? [0xff, 0xff, 0x80] 2 = some d ∧ d.unscaledBytes = [0x80] ∧
      IsShortest d.unscaledBytes (-128) := by
  have hread : ofUnscaledBytes? [0xff, 0xff, 0x80] 2 =
      some { negative := true, coefficient := 128, scale := 2 } := rfl
  exact ⟨_, hread, rfl, ((unscaledBytes_canonical _ _ _).2.2.1 hread).2⟩

end Decimal

end TableTransfer
