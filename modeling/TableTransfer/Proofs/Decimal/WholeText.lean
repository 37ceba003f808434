import TableTransfer.Proofs.Decimal.Printed

namespace TableTransfer

namespace Text

inductive Spells : List Char → Int → Prop
  | negative {ds : List Char} (hne : ds ≠ []) (hds : ∀ c ∈ ds, c.isDigit = true) :
      Spells ('-' :: ds) (-(ofDigits ds))
  | positive {ds : List Char} (hne : ds ≠ []) (hds : ∀ c ∈ ds, c.isDigit = true) :
      Spells ('+' :: ds) (ofDigits ds)
  | unsigned {ds : List Char} (hne : ds ≠ []) (hds : ∀ c ∈ ds, c.isDigit = true) :
      Spells ds (ofDigits ds)

theorem digits_of_nat? {ds : List Char} {f : Int → Int} {n : Int}
    (h : (nat? ds >>= fun m => pure (m : Int)).map f = some n) :
    ds ≠ [] ∧ (∀ c ∈ ds, c.isDigit = true) ∧ f (ofDigits ds) = n := by
  rw [nat?] at h
  split at h
  · next hds =>
    rw [Bool.and_eq_true, Bool.not_eq_true', List.isEmpty_eq_false_iff, List.all_eq_true] at hds
    exact ⟨hds.1, hds.2, Option.some.inj h⟩
  · cases h

theorem spells_of_int? {cs : List Char} {n : Int} (h : int? cs = some n) : Spells cs n := by
  rw [int?.eq_def] at h
  split at h
  · obtain ⟨hne, hds, rfl⟩ := digits_of_nat? h
    exact .negative hne hds
  · obtain ⟨hne, hds, rfl⟩ := digits_of_nat? h
    exact .positive hne hds
  · obtain ⟨hne, hds, rfl⟩ := digits_of_nat? h
    exact .unsigned hne hds

theorem Spells.forall_char {cs : List Char} {n : Int} (h : Spells cs n) {P : Char → Prop}
    (hdigit : ∀ c : Char, c.isDigit = true → P c) (hminus : P '-') (hplus : P '+') :
    ∀ c ∈ cs, P c := by
  cases h with
  | negative _ hds => exact List.forall_mem_cons.2 ⟨hminus, fun c hc => hdigit c (hds c hc)⟩
  | positive _ hds => exact List.forall_mem_cons.2 ⟨hplus, fun c hc => hdigit c (hds c hc)⟩
  | unsigned _ hds => exact fun c hc => hdigit c (hds c hc)

end Text

namespace Decimal

open Text

theorem read_ofNat {ds : List Char} (hne : ds ≠ []) (hds : ∀ c ∈ ds, c.isDigit = true)
    (hroom : ofDigits ds < limit) (negative : Bool) :
    Progress.read {} negative ds = .ok (ofNat negative (ofDigits ds) hroom).settled := by
  have hnumber : 0 * tenTo ds.length + ofDigits ds = ofDigits ds := by
    rw [Nat.zero_mul, Nat.zero_add]
  have hread : Progress.read {} negative (ds ++ []) = (Progress.take {} ds).read negative [] :=
    Progress.read_digits hds {} (hnumber.trans_lt hroom) (fun h => absurd h Bool.false_ne_true) []
  rw [List.append_nil, Progress.take_eq hne] at hread
  dsimp only at hread
  rw [hnumber, Bool.toNat_false, Nat.zero_mul] at hread
  exact hread.trans (Progress.finish_eq (ofNat negative (ofDigits ds) hroom) false)

theorem exists_ofText?_of_spells {cs : List Char} {n : Int} (h : Spells cs n)
    (hroom : n.natAbs < limit) : ∃ d, ofText? cs = some d ∧ d.signed = n ∧ d.scale = 0 := by
  have hread {ds : List Char} {negative : Bool} {hlt : ofDigits ds < limit}
      (hplain : ofPlainText cs = .ok (ofNat negative (ofDigits ds) hlt).settled)
      (hn : (ofNat negative (ofDigits ds) hlt).signed = n) :
      ∃ d, ofText? cs = some d ∧ d.signed = n ∧ d.scale = 0 := by
    refine ⟨_, ?_, (signed_settled _).trans hn, rfl⟩
    have hmark := h.forall_char (fun _ => isPowerMark_of_isDigit) rfl rfl
    rw [ofText?, ofText_of_plain hmark, hplain]
    rfl
  cases h with
  | @negative ds hne hds =>
      have hlt : ofDigits ds < limit := by rwa [Int.natAbs_neg, Int.natAbs_natCast] at hroom
      exact hread (read_ofNat hne hds hlt true) rfl
  | @positive ds hne hds =>
      have hlt : ofDigits ds < limit := by rwa [Int.natAbs_natCast] at hroom
      exact hread (read_ofNat hne hds hlt false) rfl
  | unsigned hne hds =>
      have hlt : ofDigits cs < limit := by rwa [Int.natAbs_natCast] at hroom
      obtain ⟨c, cs, rfl⟩ := List.exists_cons_of_ne_nil hne
      have hplain := ofPlainText_of_isDigit (hds c List.mem_cons_self) cs
      exact hread (hplain.trans (read_ofNat hne hds hlt false)) rfl

end Decimal

end TableTransfer
