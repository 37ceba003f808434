import TableTransfer.Calendar.Internet
import TableTransfer.Proofs.Calendar.Spaced
import TableTransfer.Proofs.Pairing

namespace TableTransfer

namespace Calendar

open Text

variable {width n : Nat} {cs rest : List Char}

theorem exists_digits_of_places (h : places width cs = .ok (n, rest)) :
    ∃ ds, cs = ds ++ rest ∧ ds.length = width ∧ (∀ c ∈ ds, c.isDigit = true) ∧
      n = ofDigits ds := by
  induction width generalizing n cs with
  | zero =>
      cases h
      exact ⟨[], rfl, rfl, fun c hc => absurd hc List.not_mem_nil, rfl⟩
  | succ width ih =>
      cases cs with
      | nil => cases h
      | cons c cs =>
          rw [places] at h
          split at h
          · next hc =>
            obtain ⟨⟨m, rest'⟩, hm, h⟩ := bind_eq_ok.1 h
            cases h
            obtain ⟨ds, rfl, hlength, hdigits, rfl⟩ := ih hm
            refine ⟨c :: ds, rfl, congrArg (· + 1) hlength,
              List.forall_mem_cons.2 ⟨hc, hdigits⟩, ?_⟩
            rw [ofDigits_cons, hlength]
          · cases h

theorem number?_of_places (hwidth : width ≠ 0) (h : places width cs = .ok (n, rest)) :
    number? width cs = some (n, rest) := by
  obtain ⟨ds, rfl, rfl, hdigits, rfl⟩ := exists_digits_of_places h
  have hne : ds ≠ [] := List.ne_nil_of_length_pos (Nat.pos_of_ne_zero hwidth)
  simp only [number?]
  rw [trimStart_of_isDigit hdigits hne, List.take_left, List.takeWhile_eq_self_iff.2 hdigits,
    List.isEmpty_eq_false_iff.2 hne, if_neg Bool.false_ne_true, List.drop_left]

theorem year?_of_places (h : places 4 cs = .ok (n, rest)) : year? cs = some ((n : Int), rest) := by
  have hnumber := number?_of_places (by decide) h
  obtain ⟨ds, rfl, hlength, hdigits, -⟩ := exists_digits_of_places h
  have hne : ds ≠ [] := List.ne_nil_of_length_pos (hlength ▸ Nat.succ_pos 3)
  rw [year?_of_isDigit hdigits hne, hnumber]
  rfl

theorem exists_mem_of_oneOf {marks : List Char} (h : oneOf marks cs = .ok rest) :
    ∃ c ∈ marks, cs = c :: rest := by
  cases cs with
  | nil => cases h
  | cons c cs =>
      rw [oneOf] at h
      split at h
      · next hc =>
        cases h
        exact ⟨c, List.contains_iff_mem.1 hc, rfl⟩
      · cases h

theorem mark?_of_oneOf {c : Char} (hc : isBlank c = false) (h : oneOf [c] cs = .ok rest) :
    mark? c (trimStart cs) = some rest := by
  obtain ⟨d, hd, rfl⟩ := exists_mem_of_oneOf h
  obtain rfl := List.mem_singleton.1 hd
  rw [trimStart, List.dropWhile_cons_of_neg (by simp [hc]), mark?_cons]

theorem fraction?_of_fraction (h : fraction cs = .ok (n, rest)) :
    fraction? cs = some (n, rest) := by
  rw [fraction.eq_def] at h
  split at h
  · dsimp only at h
    split at h
    · cases h
    split at h
    · cases h
    · next hds =>
      cases h
      exact if_neg hds
  · next hpoint =>
    cases h
    rw [fraction?.eq_def]
    split
    · exact absurd rfl (hpoint _)
    · rfl

theorem orOutOfRange_eq_ok {α : Type} {o : Option α} {a : α} (h : orOutOfRange o = .ok a) :
    o = some a := by
  cases o with
  | none => cases h
  | some b =>
      cases h
      rfl

theorem trimStart_of_zoneOffset {offset : Int} (h : zoneOffset cs = .ok (offset, rest)) :
    (trimStart cs).isEmpty = false := by
  cases cs with
  | nil => cases h
  | cons c cs =>
      have hc : isBlank c = false := by
        rw [zoneOffset] at h
        split at h
        · next hletter =>
          simp only [Bool.or_eq_true, beq_iff_eq] at hletter
          rcases hletter with rfl | rfl <;> decide
        split at h
        · next hsign =>
          simp only [Bool.or_eq_true, beq_iff_eq] at hsign
          rcases hsign with (rfl | rfl) | rfl <;> decide
        · cases h
      rw [trimStart, List.dropWhile_cons_of_neg (by simp [hc])]
      rfl

theorem mark?_blank_eq_none {c d : Char} (hc : c.isDigit = false) (hd : isBlank d = true)
    (hwidth : width ≠ 0) (h : places width cs = .ok (n, rest)) :
    mark? c (trimStart (d :: cs)) = none := by
  obtain ⟨ds, rfl, rfl, hdigits, -⟩ := exists_digits_of_places h
  have hne : ds ≠ [] := List.ne_nil_of_length_pos (Nat.pos_of_ne_zero hwidth)
  have htrim : trimStart (d :: (ds ++ rest)) = ds ++ rest :=
    (List.dropWhile_cons_of_pos hd).trans (trimStart_of_isDigit hdigits hne)
  obtain ⟨e, ds, rfl⟩ := List.exists_cons_of_ne_nil hne
  rw [htrim, List.cons_append, mark?, if_neg]
  rintro rfl
  exact Bool.false_ne_true (hc.symm.trans (hdigits e List.mem_cons_self))

theorem civil?_of_places {year month day : Nat} {date : Date} {cs₁ cs₂ cs₃ cs₄ : List Char}
    (hyear : places 4 cs = .ok (year, cs₁)) (hmark₁ : oneOf ['-'] cs₁ = .ok cs₂)
    (hmonth : places 2 cs₂ = .ok (month, cs₃)) (hmark₃ : oneOf ['-'] cs₃ = .ok cs₄)
    (hday : places 2 cs₄ = .ok (day, rest)) (hdate : Date.ofCivil? ⟨year, month, day⟩ = some date) :
    civil? .loose cs = some (date, rest) := by
  simp only [civil?, Spacing.skip, Option.bind_eq_bind, Option.bind_some, year?_of_places hyear,
    mark?_of_oneOf (c := '-') rfl hmark₁, number?_of_places two_ne_zero hmonth,
    mark?_of_oneOf (c := '-') rfl hmark₃, number?_of_places two_ne_zero hday, hdate]
  rfl

theorem clock?_of_places {hour minute second nano : Nat} {time : Time}
    {cs₁ cs₂ cs₃ cs₄ cs₅ : List Char} (hhour : places 2 cs = .ok (hour, cs₁))
    (hmark₁ : oneOf [':'] cs₁ = .ok cs₂) (hminute : places 2 cs₂ = .ok (minute, cs₃))
    (hmark₃ : oneOf [':'] cs₃ = .ok cs₄) (hsecond : places 2 cs₄ = .ok (second, cs₅))
    (hnano : fraction cs₅ = .ok (nano, rest)) (htime : timeOf? hour minute second nano = some time) :
    clock? .loose cs = some (time, rest) := by
  simp only [clock?, Spacing.skip, Option.bind_eq_bind, Option.bind_some,
    number?_of_places two_ne_zero hhour, mark?_of_oneOf (c := ':') rfl hmark₁,
    number?_of_places two_ne_zero hminute, mark?_of_oneOf (c := ':') rfl hmark₃,
    number?_of_places two_ne_zero hsecond, fraction?_of_fraction hnano, htime]
  rfl

end Calendar

open Calendar

theorem Timestamp.ofText?_of_internetText {s : String} {z : OffsetTimestamp}
    (h : OffsetTimestamp.ofInternetText s = .ok z) : Timestamp.ofText? s.toList = none := by
  unfold OffsetTimestamp.ofInternetText at h
  split at h
  · cases h
  obtain ⟨⟨year, cs₁⟩, hyear, h⟩ := bind_eq_ok.1 h
  obtain ⟨cs₂, hmark₁, h⟩ := bind_eq_ok.1 h
  obtain ⟨⟨month, cs₃⟩, hmonth, h⟩ := bind_eq_ok.1 h
  obtain ⟨cs₄, hmark₃, h⟩ := bind_eq_ok.1 h
  obtain ⟨⟨day, cs₅⟩, hday, h⟩ := bind_eq_ok.1 h
  obtain ⟨date, hdate, h⟩ := bind_eq_ok.1 h
  obtain ⟨cs₆, hmark₅, h⟩ := bind_eq_ok.1 h
  obtain ⟨⟨hour, cs₇⟩, hhour, h⟩ := bind_eq_ok.1 h
  obtain ⟨cs₈, hmark₇, h⟩ := bind_eq_ok.1 h
  obtain ⟨⟨minute, cs₉⟩, hminute, h⟩ := bind_eq_ok.1 h
  obtain ⟨cs₁₀, hmark₉, h⟩ := bind_eq_ok.1 h
  obtain ⟨⟨second, cs₁₁⟩, hsecond, h⟩ := bind_eq_ok.1 h
  obtain ⟨⟨nano, cs₁₂⟩, hnano, h⟩ := bind_eq_ok.1 h
  obtain ⟨time, htime, h⟩ := bind_eq_ok.1 h
  obtain ⟨⟨offset, cs₁₃⟩, hoffset, -⟩ := bind_eq_ok.1 h
  have hcivil := civil?_of_places hyear hmark₁ hmonth hmark₃ hday (orOutOfRange_eq_ok hdate)
  have hclock := clock?_of_places hhour hmark₇ hminute hmark₉ hsecond hnano
    (orOutOfRange_eq_ok htime)
  have hwhole : whole? (clock? .loose cs₆) = none := by
    rw [hclock, whole?, trimStart_of_zoneOffset hoffset, if_neg Bool.false_ne_true]
  rw [ofText?, hcivil]
  change (mark? 'T' (Text.trimStart cs₅)).bind _ = none
  obtain ⟨c, hc, rfl⟩ := exists_mem_of_oneOf hmark₅
  simp only [List.mem_cons, List.not_mem_nil, or_false] at hc
  rcases hc with rfl | rfl | rfl
  · rfl
  · change (whole? (clock? .loose cs₆)).bind _ = none
    rw [hwhole, Option.bind_none]
  · rw [mark?_blank_eq_none rfl (by decide) two_ne_zero hhour, Option.bind_none]

end TableTransfer
