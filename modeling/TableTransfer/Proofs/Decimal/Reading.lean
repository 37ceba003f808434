import TableTransfer.Proofs.Decimal.Numeral

namespace TableTransfer.Decimal

open Text

theorem digitsOf_cons_of_isDigit {c : Char} (h : c.isDigit = true) (cs : List Char) :
    digitsOf (c :: cs) = c :: digitsOf cs := List.filter_cons_of_pos h

theorem digitsOf_cons_of_not {c : Char} (h : c.isDigit = false) (cs : List Char) :
    digitsOf (c :: cs) = digitsOf cs := List.filter_cons_of_neg (by simp [h])

/-- What stands before the point, if it is still to come. -/
def wholeOf (point : Bool) (cs : List Char) : List Char :=
  if point then [] else cs.takeWhile (· != '.')

def placesOf (point : Bool) (cs : List Char) : List Char :=
  if point then cs else (cs.dropWhile (· != '.')).tail

structure Allows (point : Bool) (cs : List Char) : Prop where
  whole : ∀ c ∈ wholeOf point cs, isDigitOrSeparator c = true
  places : ∀ c ∈ placesOf point cs, isDigitOrSeparator c = true

section

variable {point : Bool} {c : Char} {cs : List Char}

theorem ne_point_of_isDigitOrSeparator (hc : isDigitOrSeparator c = true) : c ≠ '.' := by
  rintro rfl
  exact absurd hc (by decide)

theorem isDigitOrSeparator_of_isDigit (hc : c.isDigit = true) : isDigitOrSeparator c = true := by
  rw [isDigitOrSeparator, hc, Bool.true_or]

theorem wholeOf_cons (hc : c ≠ '.') : wholeOf false (c :: cs) = c :: wholeOf false cs :=
  List.takeWhile_cons_of_pos (p := (· != '.')) (bne_iff_ne.2 hc)

theorem placesOf_cons (hc : c ≠ '.') : placesOf false (c :: cs) = placesOf false cs :=
  congrArg List.tail (List.dropWhile_cons_of_pos (p := (· != '.')) (bne_iff_ne.2 hc))

theorem Allows.cons (hc : isDigitOrSeparator c = true) (h : Allows point cs) :
    Allows point (c :: cs) := by
  have hne := ne_point_of_isDigitOrSeparator hc
  cases point with
  | true => exact ⟨h.whole, List.forall_mem_cons.2 ⟨hc, h.places⟩⟩
  | false =>
      refine ⟨?_, ?_⟩
      · rw [wholeOf_cons hne]
        exact List.forall_mem_cons.2 ⟨hc, h.whole⟩
      · rw [placesOf_cons hne]
        exact h.places

theorem allows_nil (point : Bool) : Allows point [] := by
  cases point
  all_goals exact ⟨fun _ hc => absurd hc List.not_mem_nil, fun _ hc => absurd hc List.not_mem_nil⟩

theorem Allows.of_point (h : Allows true cs) : Allows false ('.' :: cs) :=
  ⟨fun _ hc => absurd hc List.not_mem_nil, h.places⟩

end

namespace Progress

/-- The digits so far and all that come in the text, as one number. -/
def number (p : Progress) (cs : List Char) : Nat :=
  p.coefficient * tenTo (digitsOf cs).length + ofDigits (digitsOf cs)

def places (p : Progress) (cs : List Char) : Nat :=
  p.scale + (digitsOf (placesOf p.point cs)).length

/-- The same number is to be read from the rest of a text after more of its digits. -/
structure Leads (p : Progress) (cs : List Char) (q : Progress) (rest : List Char) : Prop where
  coefficient_lt : p.coefficient < limit → q.coefficient < limit
  number : q.number rest = p.number cs
  places : q.places rest = p.places cs
  allows : Allows q.point rest → Allows p.point cs
  digits : q.digits = true → p.digits = true ∨ ∃ c ∈ cs, c.isDigit = true

/-- There is no room for the first digit of the text, which stands after the point. -/
def IsFull (p : Progress) (cs : List Char) : Prop :=
  p.point = true ∧ (28 ≤ p.scale ∨ ∃ c rest, cs = c :: rest ∧ c.isDigit = true ∧
    limit ≤ 10 * p.coefficient + digitValue c)

/-- How reading comes to its end: the text ends, or a digit has no room. -/
inductive Ends (negative : Bool) (d : Decimal) : Progress → List Char → Prop where
  | finished {p : Progress} : p.finish negative = .ok d → Ends negative d p []
  | rounded {p : Progress} {cs : List Char} : p.IsFull cs → p.round negative cs = .ok d →
      Ends negative d p cs

variable {p q r : Progress} {c : Char} {cs rest rest' : List Char} {negative : Bool} {d : Decimal}

theorem Leads.refl (p : Progress) (cs : List Char) : p.Leads cs p cs :=
  ⟨id, rfl, rfl, id, .inl⟩

theorem leads_digit (hc : c.isDigit = true) (hroom : 10 * p.coefficient + digitValue c < limit) :
    p.Leads (c :: cs) { p with
      coefficient := 10 * p.coefficient + digitValue c
      scale := p.scale + p.point.toNat
      digits := true } cs where
  coefficient_lt _ := hroom
  number := by
    simp only [number]
    rw [digitsOf_cons_of_isDigit hc, ofDigits_cons, List.length_cons, tenTo_succ]
    ring
  places := by
    have hne := ne_point_of_isDigitOrSeparator (isDigitOrSeparator_of_isDigit hc)
    simp only [places]
    cases p.point with
    | true =>
        change _ + 1 + (digitsOf cs).length = _ + (digitsOf (c :: cs)).length
        rw [digitsOf_cons_of_isDigit hc, List.length_cons]
        omega
    | false => rw [placesOf_cons hne]; rfl
  allows h := h.cons (isDigitOrSeparator_of_isDigit hc)
  digits _ := .inr ⟨c, List.mem_cons_self, hc⟩

theorem leads_point (hp : p.point = false) :
    p.Leads ('.' :: cs) { p with point := true } cs where
  coefficient_lt := id
  number := by
    simp only [number]
    rw [digitsOf_cons_of_not rfl]
  places := by
    simp only [places, hp]
    rfl
  allows h := by
    rw [hp]
    exact h.of_point
  digits := .inl

theorem leads_separator : p.Leads ('_' :: cs) p cs where
  coefficient_lt := id
  number := by
    simp only [number]
    rw [digitsOf_cons_of_not rfl]
  places := by
    simp only [places]
    cases p.point with
    | true =>
        change _ = _ + (digitsOf ('_' :: cs)).length
        rw [digitsOf_cons_of_not rfl]
        rfl
    | false => rw [placesOf_cons (by decide)]
  allows h := h.cons rfl
  digits := .inl

theorem Leads.trans (h : p.Leads (c :: cs) q cs) (h' : q.Leads cs r rest) :
    p.Leads (c :: cs) r rest where
  coefficient_lt := h'.coefficient_lt ∘ h.coefficient_lt
  number := h'.number.trans h.number
  places := h'.places.trans h.places
  allows := h.allows ∘ h'.allows
  digits hr := by
    obtain hq | ⟨c, hc, hdigit⟩ := h'.digits hr
    · exact h.digits hq
    · exact .inr ⟨c, List.mem_cons_of_mem _ hc, hdigit⟩

theorem leads_dropWhile (p : Progress) (cs : List Char) :
    p.Leads cs p (cs.dropWhile (· == '_')) := by
  induction cs with
  | nil => exact .refl p []
  | cons c cs ih =>
      by_cases hc : c = '_'
      · subst hc
        exact leads_separator.trans ih
      · rw [List.dropWhile_cons_of_neg (by simpa using hc)]
        exact .refl p _

theorem exists_ends_close (hp : p.point = true) (hscale : 28 ≤ p.scale) (cs : List Char)
    (h : p.close negative cs = .ok d) : ∃ rest, p.Leads cs p rest ∧ Ends negative d p rest := by
  rw [close] at h
  obtain ⟨rest, hrest, hleads⟩ : ∃ rest, rest = (if p.isLong then cs.dropWhile (· == '_') else cs) ∧
      p.Leads cs p rest := by
    refine ⟨_, rfl, ?_⟩
    split
    · exact leads_dropWhile p cs
    · exact .refl p cs
  rw [← hrest] at h
  cases rest with
  | nil => exact ⟨[], hleads, .finished h⟩
  | cons c rest => exact ⟨c :: rest, hleads, .rounded ⟨hp, .inl hscale⟩ h⟩

theorem exists_ends (h : p.read negative cs = .ok d) :
    ∃ q rest, p.Leads cs q rest ∧ Ends negative d q rest := by
  induction cs generalizing p with
  | nil => exact ⟨p, [], .refl p [], .finished h⟩
  | cons c cs ih =>
      rw [read] at h
      split at h
      · next hfull =>
        rw [Bool.and_eq_true, decide_eq_true_eq] at hfull
        obtain ⟨rest, hleads, hends⟩ := exists_ends_close hfull.1 hfull.2 (c :: cs) h
        exact ⟨p, rest, hleads, hends⟩
      split at h
      · next hc =>
        dsimp only at h
        split at h
        · next hroom =>
          obtain ⟨q, rest, hleads, hends⟩ := ih h
          exact ⟨q, rest, (leads_digit hc hroom).trans hleads, hends⟩
        split at h
        · next hroom hp =>
          exact ⟨p, c :: cs, .refl p _, .rounded ⟨hp, .inr ⟨c, cs, rfl, hc, not_lt.1 hroom⟩⟩ h⟩
        · cases h
      split at h
      · next hpoint =>
        rw [Bool.and_eq_true, beq_iff_eq, Bool.not_eq_true'] at hpoint
        obtain ⟨rfl, hp⟩ := hpoint
        obtain ⟨q, rest, hleads, hends⟩ := ih h
        exact ⟨q, rest, (leads_point hp).trans hleads, hends⟩
      split at h
      · next hseparator =>
        rw [Bool.and_eq_true, beq_iff_eq] at hseparator
        obtain ⟨rfl, -⟩ := hseparator
        obtain ⟨q, rest, hleads, hends⟩ := ih h
        exact ⟨q, rest, leads_separator.trans hleads, hends⟩
      · cases h

theorem finish_eq_ok (h : p.finish negative = .ok d) : p.digits = true ∧
    d.negative = (negative && d.coefficient != 0) ∧ d.coefficient = p.coefficient ∧
      d.scale = p.scale := by
  rw [finish] at h
  split at h
  · cases h
  split at h
  · next hdigits _ =>
    cases h
    exact ⟨by simpa using hdigits, rfl, rfl, rfl⟩
  · cases h

theorem round_eq_ok (h : p.round negative cs = .ok d) :
    (∀ c ∈ cs, isDigitOrSeparator c = true) ∧ p.digits = true ∧
      d.negative = (negative && d.coefficient != 0) := by
  rw [round] at h
  split at h
  · cases h
  · next hnone =>
    have hallowed : ∀ c ∈ cs, isDigitOrSeparator c = true := by
      simpa using List.find?_eq_none.1 hnone
    dsimp only at h
    split at h
    · obtain ⟨hdigits, hnegative, -⟩ := finish_eq_ok h
      exact ⟨hallowed, hdigits, hnegative⟩
    split at h
    · cases h
    · obtain ⟨hdigits, hnegative, -⟩ := finish_eq_ok h
      exact ⟨hallowed, hdigits, hnegative⟩

theorem round_of_zeros (hlt : p.coefficient < limit)
    (hcs : ∀ c ∈ cs, isDigitOrSeparator c = true) (hzero : ofDigits (digitsOf cs) = 0) :
    p.round negative cs = p.finish negative := by
  have hdown : cs.head?.any (fun c => c.isDigit && decide (5 ≤ digitValue c)) = false := by
    cases cs with
    | nil => rfl
    | cons c cs =>
        cases hc : c.isDigit with
        | false => simp [hc]
        | true =>
            rw [digitsOf_cons_of_isDigit hc, ofDigits_cons] at hzero
            have hvalue : digitValue c = 0 := by
              have hpos := tenTo_pos (digitsOf cs).length
              have hmul : digitValue c * tenTo (digitsOf cs).length = 0 := by omega
              exact (Nat.mul_eq_zero.1 hmul).resolve_right hpos.ne'
            simp [hvalue]
  have hnone : cs.find? (fun c => !isDigitOrSeparator c) = none := by
    simpa using hcs
  rw [round, hnone]
  dsimp only
  rw [hdown]
  exact if_pos hlt

end Progress

/-- Some coefficient with so many places is the number `n * 10 ^ -places`, at a scale that decimals
have; at scale 0 it may be any coefficient. -/
def Fits (n places : Nat) : Prop :=
  ∃ c k, k ≤ 28 ∧ (c < limit ∨ k = 0) ∧ c * tenTo places = n * tenTo k

section

variable {coefficient n m k rest value places : Nat}

theorem eq_zero_of_scale_le (hle : k ≤ places) (hrest : rest < tenTo m)
    (hsame : n * tenTo (places + m) = (coefficient * tenTo m + rest) * tenTo k) : rest = 0 := by
  obtain ⟨j, hj⟩ := Nat.exists_eq_add_of_le hle
  have hshift : n * tenTo j * tenTo m = coefficient * tenTo m + rest := by
    apply Nat.eq_of_mul_eq_mul_right (tenTo_pos k)
    rw [← hsame, hj, tenTo_add, tenTo_add]
    ring
  have hdvd : tenTo m ∣ rest :=
    (Nat.dvd_add_right (Nat.dvd_mul_left _ _)).1 (hshift ▸ Nat.dvd_mul_left _ _)
  exact Nat.eq_zero_of_dvd_of_lt hdvd hrest

theorem limit_le_of_lt_scale (hlt : places < k) (hroom : limit ≤ 10 * coefficient + value)
    (hsame : n * tenTo (places + (m + 1)) =
      (coefficient * tenTo (m + 1) + (value * tenTo m + rest)) * tenTo k) : limit ≤ n := by
  have hnext : (10 * coefficient + value) * tenTo m ≤
      coefficient * tenTo (m + 1) + (value * tenTo m + rest) := by
    rw [tenTo_succ, ← Nat.add_assoc]
    exact (le_of_eq (by ring)).trans (Nat.le_add_right _ rest)
  have hlimit : limit * tenTo (places + (m + 1)) ≤ n * tenTo (places + (m + 1)) :=
    calc limit * tenTo (places + (m + 1))
        = limit * tenTo m * tenTo (places + 1) := by
          rw [tenTo_add, tenTo_succ, tenTo_succ]
          ring
      _ ≤ (10 * coefficient + value) * tenTo m * tenTo k :=
          Nat.mul_le_mul (Nat.mul_le_mul_right _ hroom) (tenTo_le_tenTo hlt)
      _ ≤ (coefficient * tenTo (m + 1) + (value * tenTo m + rest)) * tenTo k :=
          Nat.mul_le_mul_right _ hnext
      _ = n * tenTo (places + (m + 1)) := hsame.symm
  exact Nat.le_of_mul_le_mul_right hlimit (tenTo_pos _)

end

namespace Progress

variable {p : Progress} {cs : List Char} {negative : Bool} {d : Decimal}

theorem places_of_point (h : p.point = true) (cs : List Char) :
    p.places cs = p.scale + (digitsOf cs).length := by
  rw [places, h]
  rfl

theorem IsFull.eq_zero (h : p.IsFull cs) (hfits : Fits (p.number cs) (p.places cs)) :
    ofDigits (digitsOf cs) = 0 := by
  obtain ⟨hpoint, hfull⟩ := h
  obtain ⟨n, k, hk, hn, hsame⟩ := hfits
  rw [places_of_point hpoint, number] at hsame
  rcases Nat.lt_or_ge p.scale k with hlt | hle
  · obtain ⟨c, rest, rfl, hc, hroom⟩ := hfull.resolve_left (by omega)
    rw [digitsOf_cons_of_isDigit hc, List.length_cons, ofDigits_cons] at hsame
    have hlimit := limit_le_of_lt_scale hlt hroom hsame
    omega
  · exact eq_zero_of_scale_le hle (ofDigits_lt fun c hc => (List.mem_filter.1 hc).2) hsame

/-- The decimal has the sign and the digits of the text, and is their number if that fits. -/
structure Reads (negative : Bool) (p : Progress) (cs : List Char) (d : Decimal) : Prop where
  allows : Allows p.point cs
  digits : p.digits = true ∨ ∃ c ∈ cs, c.isDigit = true
  negative_eq : d.negative = (negative && d.coefficient != 0)
  exact : Fits (p.number cs) (p.places cs) →
    d.coefficient * tenTo (p.places cs) = p.number cs * tenTo d.scale

theorem Ends.digits (h : Ends negative d p cs) : p.digits = true := by
  cases h with
  | finished h => exact (finish_eq_ok h).1
  | rounded _ h => exact (round_eq_ok h).2.1

theorem reads_of_ends (hlt : p.coefficient < limit) (h : Ends negative d p cs) :
    Reads negative p cs d := by
  cases h with
  | finished h =>
      obtain ⟨hdigits, hnegative, hcoefficient, hscale⟩ := finish_eq_ok h
      have hplaces : p.places [] = p.scale := by
        rw [places]
        cases p.point <;> rfl
      refine ⟨allows_nil p.point, .inl hdigits, hnegative, fun _ => ?_⟩
      rw [hplaces, hcoefficient, hscale]
      exact congrArg (· * tenTo p.scale) (Nat.mul_one _).symm
  | rounded hfull h =>
      obtain ⟨hallowed, hdigits, hnegative⟩ := round_eq_ok h
      refine ⟨?_, .inl hdigits, hnegative, ?_⟩
      · rw [hfull.1]
        exact ⟨fun c hc => absurd hc List.not_mem_nil, hallowed⟩
      · intro hfits
        have hzero := hfull.eq_zero hfits
        rw [round_of_zeros hlt hallowed hzero] at h
        obtain ⟨-, -, hcoefficient, hscale⟩ := finish_eq_ok h
        rw [places_of_point hfull.1, number, hzero, hcoefficient, hscale, tenTo_add]
        ring

theorem reads_of_read (hlt : p.coefficient < limit) (h : p.read negative cs = .ok d) :
    Reads negative p cs d := by
  obtain ⟨q, rest, hleads, hends⟩ := exists_ends h
  obtain ⟨hallows, -, hnegative, hexact⟩ := reads_of_ends (hleads.coefficient_lt hlt) hends
  rw [hleads.number, hleads.places] at hexact
  exact ⟨hleads.allows hallows, hleads.digits hends.digits, hnegative, hexact⟩

end Progress

theorem ofPlainText_of_ok {cs : List Char} {d : Decimal} (h : ofPlainText cs = .ok d) :
    Progress.read {} (Numeral.splitSign cs).1 (Numeral.splitSign cs).2 = .ok d := by
  rw [ofPlainText.eq_def] at h
  split at h
  · cases h
  · exact h
  · exact h
  · next hminus hplus =>
    rw [Numeral.splitSign.eq_def]
    split
    · exact absurd rfl (hminus _)
    · exact absurd rfl (hplus _)
    · exact h

theorem digitsOf_split (cs : List Char) :
    digitsOf (wholeOf false cs ++ placesOf false cs) = digitsOf cs := by
  induction cs with
  | nil => rfl
  | cons c cs ih =>
      by_cases hc : c = '.'
      · subst hc
        exact (digitsOf_cons_of_not rfl cs).symm
      · rw [wholeOf_cons hc, placesOf_cons hc, List.cons_append]
        simp only [digitsOf, List.filter_cons] at ih ⊢
        rw [ih]

def IsNear (q : ℚ) : Prop := IsHeld q ∨ ∃ n : ℤ, q = n

theorem fits_of_isNear {n : ℤ} {k : Nat} (h : IsNear (n / tenTo k)) : Fits n.natAbs k := by
  obtain ⟨e, he⟩ | ⟨m, hm⟩ := h
  · have hsame := congrArg Int.natAbs (toRat_eq_iff.1 he)
    rw [Int.natAbs_mul, Int.natAbs_mul, signed_natAbs] at hsame
    exact ⟨e.coefficient, e.scale, e.scale_le, .inl e.coefficient_lt, hsame⟩
  · rw [div_eq_iff (cast_tenTo_ne_zero k)] at hm
    have hsame : n = m * tenTo k := by exact_mod_cast hm
    refine ⟨m.natAbs, 0, by decide, .inr rfl, ?_⟩
    rw [hsame, Int.natAbs_mul, Int.natAbs_natCast]
    exact (Nat.mul_one _).symm

theorem signed_eq_of_negative {d : Decimal} {negative : Bool}
    (h : d.negative = (negative && d.coefficient != 0)) :
    d.signed = if negative then -(d.coefficient : ℤ) else d.coefficient := by
  rw [signed, h]
  by_cases hzero : d.coefficient = 0
  · simp [hzero]
  · simp [hzero]

/-- What is accepted is a number in digits, and is read as it is if a decimal has room for it. A
whole number that is accepted has room. -/
theorem ofPlainText_reads {cs : List Char} {d : Decimal} (h : ofPlainText cs = .ok d) :
    (Numeral.ofPlain cs).IsProper ∧
      (IsNear (Numeral.ofPlain cs).base → d.toRat = (Numeral.ofPlain cs).base) := by
  have hlt : Progress.coefficient {} < limit := by decide
  obtain ⟨hallows, hdigits, hnegative, hexact⟩ :=
    Progress.reads_of_read hlt (ofPlainText_of_ok h)
  have hparts : digitsOf ((Numeral.ofPlain cs).whole ++ (Numeral.ofPlain cs).places) =
      digitsOf (Numeral.splitSign cs).2 := digitsOf_split (Numeral.splitSign cs).2
  have hmagnitude :
      Progress.number {} (Numeral.splitSign cs).2 = (Numeral.ofPlain cs).magnitude := by
    rw [Progress.number, Numeral.magnitude, hparts, Nat.zero_mul, Nat.zero_add]
  have hscale : Progress.places {} (Numeral.splitSign cs).2 = (Numeral.ofPlain cs).scale :=
    Nat.zero_add _
  rw [hmagnitude, hscale] at hexact
  constructor
  · refine ⟨hallows.whole, hallows.places, ?_, fun c hc => absurd hc List.not_mem_nil⟩
    obtain ⟨c, hc, hdigit⟩ := hdigits.resolve_left Bool.false_ne_true
    have hmem : c ∈ digitsOf (Numeral.splitSign cs).2 := List.mem_filter.2 ⟨hc, hdigit⟩
    rw [← hparts] at hmem
    exact ⟨c, (List.mem_filter.1 hmem).1, hdigit⟩
  · intro hnear
    have hfits := fits_of_isNear hnear
    rw [Numeral.signed_natAbs] at hfits
    have hsame : (d.coefficient * tenTo (Numeral.ofPlain cs).scale : ℤ) =
        (Numeral.ofPlain cs).magnitude * tenTo d.scale := by exact_mod_cast hexact hfits
    rw [Numeral.base, toRat_eq_iff, signed_eq_of_negative hnegative, Numeral.signed]
    cases hsign : (Numeral.splitSign cs).1 with
    | true =>
        rw [show (Numeral.ofPlain cs).negative = true from hsign, if_pos rfl, if_pos rfl]
        linear_combination -hsame
    | false =>
        rw [show (Numeral.ofPlain cs).negative = false from hsign, if_neg Bool.false_ne_true,
          if_neg Bool.false_ne_true]
        exact hsame

end TableTransfer.Decimal
