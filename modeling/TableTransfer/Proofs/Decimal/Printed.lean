import TableTransfer.Proofs.Decimal.Numeral

namespace TableTransfer.Decimal

open Text

def body (d : Decimal) : List Char :=
  digits (d.coefficient / tenTo d.scale) ++
    if d.scale = 0 then [] else '.' :: padded d.scale (d.coefficient % tenTo d.scale)

def fraction (d : Decimal) : List Char :=
  if d.scale = 0 then [] else padded d.scale (d.coefficient % tenTo d.scale)

theorem toList_text (d : Decimal) :
    d.text.toList = (if d.negative then ['-'] else []) ++ d.body := by
  rw [text, String.toList_ofList, body, List.append_assoc]

/-- The decimal without the sign that a zero may have. -/
def settled (d : Decimal) : Decimal := { d with negative := d.negative && d.coefficient != 0 }

theorem signed_settled (d : Decimal) : d.settled.signed = d.signed := by
  rw [signed, signed]
  by_cases hzero : d.coefficient = 0
  · simp [settled, hzero]
  · simp [settled, hzero]

theorem toRat_settled (d : Decimal) : d.settled.toRat = d.toRat :=
  congrArg (fun n : ℤ => (n : ℚ) / tenTo d.scale) d.signed_settled

theorem settled_eq {d : Decimal} (h : d.negative = false ∨ d.coefficient ≠ 0) : d.settled = d := by
  have hnegative : (d.negative && d.coefficient != 0) = d.negative := by
    obtain hsign | hcoefficient := h
    · rw [hsign, Bool.false_and]
    · rw [bne_iff_ne.2 hcoefficient, Bool.and_true]
  rw [settled, hnegative]

namespace Progress

def push (p : Progress) (c : Char) : Progress where
  coefficient := 10 * p.coefficient + digitValue c
  scale := p.scale + p.point.toNat
  point := p.point
  digits := true

def take (p : Progress) (ds : List Char) : Progress := ds.foldl push p

theorem take_cons (p : Progress) (c : Char) (ds : List Char) :
    p.take (c :: ds) = (p.push c).take ds := List.foldl_cons ..

theorem coefficient_take (p : Progress) (ds : List Char) :
    (p.take ds).coefficient = p.coefficient * tenTo ds.length + ofDigits ds := by
  induction ds generalizing p with
  | nil => exact (Nat.mul_one _).symm
  | cons c ds ih =>
      rw [take_cons, ih, push, ofDigits_cons, List.length_cons, tenTo_succ]
      ring

theorem scale_take (p : Progress) (ds : List Char) :
    (p.take ds).scale = p.scale + p.point.toNat * ds.length := by
  induction ds generalizing p with
  | nil => exact (Nat.add_zero _).symm
  | cons c ds ih =>
      rw [take_cons, ih, push, List.length_cons]
      ring

theorem point_take (p : Progress) (ds : List Char) : (p.take ds).point = p.point := by
  induction ds generalizing p with
  | nil => rfl
  | cons c ds ih => exact ih _

theorem digits_take {p : Progress} {ds : List Char} (h : p.digits = true ∨ ds ≠ []) :
    (p.take ds).digits = true := by
  induction ds generalizing p with
  | nil => exact h.resolve_right (not_not.2 rfl)
  | cons c ds ih => exact ih (.inl rfl)

theorem read_digits {negative : Bool} {ds : List Char} (hds : ∀ c ∈ ds, c.isDigit = true)
    (p : Progress) (hroom : p.coefficient * tenTo ds.length + ofDigits ds < limit)
    (hscale : p.point = true → p.scale + ds.length ≤ 28) (rest : List Char) :
    p.read negative (ds ++ rest) = (p.take ds).read negative rest := by
  induction ds generalizing p with
  | nil => rfl
  | cons c ds ih =>
      obtain ⟨hc, hds⟩ := List.forall_mem_cons.1 hds
      have hnumber : p.coefficient * tenTo (c :: ds).length + ofDigits (c :: ds) =
          (10 * p.coefficient + digitValue c) * tenTo ds.length + ofDigits ds := by
        rw [ofDigits_cons, List.length_cons, tenTo_succ]
        ring
      rw [hnumber] at hroom
      have hfirst : 10 * p.coefficient + digitValue c < limit :=
        ((Nat.le_mul_of_pos_right _ (tenTo_pos _)).trans (Nat.le_add_right ..)).trans_lt hroom
      have hopen : ¬(p.point && decide (28 ≤ p.scale)) = true := by
        rw [Bool.and_eq_true, decide_eq_true_eq]
        rintro ⟨hpoint, hfull⟩
        have hplace := hscale hpoint
        rw [List.length_cons] at hplace
        omega
      rw [List.cons_append, read, if_neg hopen, if_pos hc]
      dsimp only
      rw [if_pos hfirst]
      refine ih hds _ hroom fun hpoint => ?_
      have hplace := hscale hpoint
      rw [List.length_cons] at hplace
      rw [show p.point = true from hpoint]
      simp only [Bool.toNat_true]
      omega

theorem read_point {p : Progress} {negative : Bool} (hp : p.point = false) (cs : List Char) :
    p.read negative ('.' :: cs) = Progress.read { p with point := true } negative cs := by
  rw [read, hp]
  rfl

theorem take_eq {p : Progress} {ds : List Char} (hds : ds ≠ []) : p.take ds =
    { coefficient := p.coefficient * tenTo ds.length + ofDigits ds
      scale := p.scale + p.point.toNat * ds.length
      point := p.point
      digits := true } := by
  rw [← coefficient_take, ← scale_take, ← point_take p ds, ← digits_take (p := p) (.inr hds)]

theorem read_whole (d : Decimal) (negative : Bool) (rest : List Char) :
    Progress.read {} negative (Text.digits (d.coefficient / tenTo d.scale) ++ rest) =
      Progress.read { coefficient := d.coefficient / tenTo d.scale, digits := true } negative
        rest := by
  obtain ⟨whole, hwhole⟩ : ∃ n, n = d.coefficient / tenTo d.scale := ⟨_, rfl⟩
  have hlt : whole < limit := by
    rw [hwhole]
    exact (Nat.div_le_self ..).trans_lt d.coefficient_lt
  have hnumber : 0 * tenTo (Text.digits whole).length + ofDigits (Text.digits whole) = whole := by
    rw [Nat.zero_mul, Nat.zero_add, ofDigits_digits]
  rw [← hwhole, read_digits (fun c hc => isDigit_of_mem_digits hc) _ (hnumber.trans_lt hlt)
    (fun h => absurd h Bool.false_ne_true), take_eq (digits_ne_nil whole)]
  dsimp only
  rw [hnumber, Bool.toNat_false, Nat.zero_mul]

theorem read_places {d : Decimal} (hscale : d.scale ≠ 0) (negative : Bool) :
    Progress.read { coefficient := d.coefficient / tenTo d.scale, point := true, digits := true }
        negative (padded d.scale (d.coefficient % tenTo d.scale)) =
      Progress.finish
        { coefficient := d.coefficient, scale := d.scale, point := true, digits := true }
        negative := by
  have hlength := length_padded hscale (Nat.mod_lt d.coefficient (tenTo_pos d.scale))
  have hnumber : d.coefficient / tenTo d.scale *
      tenTo (padded d.scale (d.coefficient % tenTo d.scale)).length +
        ofDigits (padded d.scale (d.coefficient % tenTo d.scale)) = d.coefficient := by
    rw [hlength, ofDigits_padded]
    exact Nat.div_add_mod' ..
  rw [← List.append_nil (padded _ _), read_digits (fun c hc => isDigit_of_mem_padded hc) _
    (hnumber.trans_lt d.coefficient_lt), take_eq (padded_ne_nil _ _)]
  · dsimp only
    rw [hnumber, hlength, Bool.toNat_true, Nat.one_mul, Nat.zero_add]
    rfl
  · intro _
    dsimp only
    rw [hlength, Nat.zero_add]
    exact d.scale_le

theorem finish_eq (d : Decimal) (point : Bool) :
    Progress.finish { coefficient := d.coefficient, scale := d.scale, point, digits := true }
      d.negative = .ok d.settled := by
  rw [finish, if_neg (show ¬(!true) = true from Bool.false_ne_true)]
  exact dif_pos ⟨d.coefficient_lt, d.scale_le⟩

theorem read_body (d : Decimal) : Progress.read {} d.negative d.body = .ok d.settled := by
  rw [body, read_whole]
  split
  · next hzero =>
    have hwhole : d.coefficient / tenTo d.scale = d.coefficient := by
      rw [hzero]
      exact Nat.div_one _
    have hfinish := finish_eq d false
    rw [hzero] at hfinish
    rw [hwhole]
    exact hfinish
  · next hscale =>
    rw [read_point rfl, read_places hscale]
    exact finish_eq d true

end Progress

theorem isDigit_or_point_of_mem_body {d : Decimal} {c : Char} (h : c ∈ d.body) :
    c.isDigit = true ∨ c = '.' := by
  obtain hwhole | hplaces := List.mem_append.1 h
  · exact .inl (isDigit_of_mem_digits hwhole)
  split at hplaces
  · cases hplaces
  · obtain rfl | hplace := List.mem_cons.1 hplaces
    · exact .inr rfl
    · exact .inl (isDigit_of_mem_padded hplace)

theorem exists_body_eq_cons (d : Decimal) :
    ∃ c cs, d.body = c :: cs ∧ c.isDigit = true := by
  obtain ⟨c, cs, hcs⟩ :=
    List.exists_cons_of_ne_nil (digits_ne_nil (d.coefficient / tenTo d.scale))
  have hmem : c ∈ digits (d.coefficient / tenTo d.scale) := by
    rw [hcs]
    exact List.mem_cons_self
  rw [body, hcs]
  exact ⟨c, _, rfl, isDigit_of_mem_digits hmem⟩

theorem ofPlainText_of_isDigit {c : Char} (hc : c.isDigit = true) (cs : List Char) :
    ofPlainText (c :: cs) = Progress.read {} false (c :: cs) := by
  rw [ofPlainText.eq_def]
  split
  · next heq => cases heq
  · next heq =>
    obtain ⟨rfl, -⟩ := List.cons.inj heq
    exact absurd hc (by decide)
  · next heq =>
    obtain ⟨rfl, -⟩ := List.cons.inj heq
    exact absurd hc (by decide)
  · rfl

theorem ofPlainText_text (d : Decimal) :
    ofPlainText d.text.toList = Progress.read {} d.negative d.body := by
  rw [toList_text]
  cases d.negative with
  | true => rfl
  | false =>
      obtain ⟨c, cs, hbody, hc⟩ := d.exists_body_eq_cons
      rw [if_neg Bool.false_ne_true, List.nil_append, hbody, ofPlainText_of_isDigit hc]

theorem isDigit_of_getLast?_body {d : Decimal} {start : List Char} {c : Char}
    (h : c ∈ (start ++ d.body).getLast?) : c.isDigit = true := by
  rw [body] at h
  split at h
  · rw [List.append_nil, ← padded_zero] at h
    exact isDigit_of_getLast?_padded h
  · rw [← List.append_assoc, List.append_cons] at h
    exact isDigit_of_getLast?_padded h

theorem trim_text (d : Decimal) : trim d.text.toList = d.text.toList := by
  rw [toList_text]
  apply trim_eq_self
  · intro c hc
    cases hnegative : d.negative with
    | true =>
        rw [hnegative] at hc
        cases hc
        decide
    | false =>
        obtain ⟨e, es, hbody, he⟩ := d.exists_body_eq_cons
        rw [hnegative, if_neg Bool.false_ne_true, List.nil_append, hbody] at hc
        cases hc
        exact isBlank_of_isDigit he
  · exact fun c hc => isBlank_of_isDigit (isDigit_of_getLast?_body hc)

theorem isPowerMark_of_isDigit {c : Char} (hc : c.isDigit = true) : isPowerMark c = false := by
  rw [isPowerMark, Bool.or_eq_false_iff, beq_eq_false_iff_ne, beq_eq_false_iff_ne]
  constructor
  · rintro rfl
    exact absurd hc (by decide)
  · rintro rfl
    exact absurd hc (by decide)

theorem isPowerMark_of_mem_text {d : Decimal} {c : Char} (h : c ∈ d.text.toList) :
    isPowerMark c = false := by
  rw [toList_text] at h
  obtain hsign | hbody := List.mem_append.1 h
  · split at hsign
    · rw [List.mem_singleton.1 hsign]
      decide
    · cases hsign
  · obtain hc | rfl := isDigit_or_point_of_mem_body hbody
    · exact isPowerMark_of_isDigit hc
    · decide

theorem dropWhile_isPowerMark {cs : List Char} (h : ∀ c ∈ cs, isPowerMark c = false) :
    (cs.dropWhile fun c => !isPowerMark c) = [] := by
  rw [List.dropWhile_eq_nil_iff]
  intro c hc
  rw [h c hc]
  rfl

theorem ofText_of_plain {cs : List Char} (h : ∀ c ∈ cs, isPowerMark c = false) :
    ofText cs = ofPlainText cs := by
  rw [ofText, dropWhile_isPowerMark h]

theorem dropWhile_text (d : Decimal) :
    (d.text.toList.dropWhile fun c => !isPowerMark c) = [] :=
  dropWhile_isPowerMark fun _ hc => isPowerMark_of_mem_text hc

/-- All digits and the scale are read again; the sign of a zero is not. -/
theorem ofText_text (d : Decimal) : ofText (trim d.text.toList) = .ok d.settled := by
  rw [trim_text, ofText_of_plain fun _ hc => isPowerMark_of_mem_text hc]
  exact (ofPlainText_text d).trans (Progress.read_body d)

theorem splitSign_text (d : Decimal) :
    Numeral.splitSign d.text.toList = (d.negative, d.body) := by
  rw [toList_text]
  cases d.negative with
  | true => rfl
  | false =>
      obtain ⟨c, cs, hbody, hc⟩ := d.exists_body_eq_cons
      rw [if_neg Bool.false_ne_true, List.nil_append, hbody, Numeral.splitSign.eq_def]
      split
      · next heq =>
        obtain ⟨rfl, -⟩ := List.cons.inj heq
        exact absurd hc (by decide)
      · next heq =>
        obtain ⟨rfl, -⟩ := List.cons.inj heq
        exact absurd hc (by decide)
      · rfl

theorem takeWhile_body (d : Decimal) :
    d.body.takeWhile (· != '.') = digits (d.coefficient / tenTo d.scale) ∧
      (d.body.dropWhile (· != '.')).tail = d.fraction := by
  have hwhole : ∀ c ∈ digits (d.coefficient / tenTo d.scale), (c != '.') = true := by
    intro c hc
    rw [bne_iff_ne]
    rintro rfl
    exact absurd (isDigit_of_mem_digits hc) (by decide)
  rw [body, fraction, List.takeWhile_append_of_pos hwhole, List.dropWhile_append_of_pos hwhole]
  split
  · exact ⟨List.append_nil _, rfl⟩
  · exact ⟨List.append_nil _, rfl⟩

theorem numeral_text (d : Decimal) : Numeral.ofText d.text.toList =
    { negative := d.negative
      whole := digits (d.coefficient / tenTo d.scale)
      places := d.fraction } := by
  have hplain : (d.text.toList.takeWhile fun c => !isPowerMark c) = d.text.toList := by
    have happend := List.takeWhile_append_dropWhile
      (p := fun c => !isPowerMark c) (l := d.text.toList)
    rwa [dropWhile_text, List.append_nil] at happend
  rw [Numeral.ofText, Numeral.ofPlain, hplain, dropWhile_text, splitSign_text,
    d.takeWhile_body.1, d.takeWhile_body.2]
  rfl

theorem isDigit_of_mem_fraction {d : Decimal} {c : Char} (h : c ∈ d.fraction) :
    c.isDigit = true := by
  rw [fraction] at h
  split at h
  · cases h
  · exact isDigit_of_mem_padded h

theorem fraction_eq (d : Decimal) : d.fraction.length = d.scale ∧
    ofDigits d.fraction = d.coefficient % tenTo d.scale := by
  rw [fraction]
  split
  · next hzero =>
    rw [hzero]
    exact ⟨rfl, (Nat.mod_one _).symm⟩
  · next hscale =>
    exact ⟨length_padded hscale (Nat.mod_lt _ (tenTo_pos _)), ofDigits_padded ..⟩

theorem toRat_numeral_text (d : Decimal) : (Numeral.ofText d.text.toList).toRat = d.toRat := by
  have hdigits {ds : List Char} (h : ∀ c ∈ ds, c.isDigit = true) : digitsOf ds = ds :=
    List.filter_eq_self.2 h
  have hscale : (Numeral.ofText d.text.toList).scale = d.scale := by
    rw [Numeral.scale, numeral_text, hdigits fun c hc => isDigit_of_mem_fraction hc]
    exact d.fraction_eq.1
  have hmagnitude : (Numeral.ofText d.text.toList).magnitude = d.coefficient := by
    have hall : ∀ c ∈ digits (d.coefficient / tenTo d.scale) ++ d.fraction, c.isDigit = true :=
      List.forall_mem_append.2
        ⟨fun c hc => isDigit_of_mem_digits hc, fun c hc => isDigit_of_mem_fraction hc⟩
    rw [Numeral.magnitude, numeral_text, hdigits hall, ofDigits_append, ofDigits_digits,
      d.fraction_eq.1, d.fraction_eq.2]
    exact Nat.div_add_mod' ..
  have hsigned : (Numeral.ofText d.text.toList).signed = d.signed := by
    rw [Numeral.signed, hmagnitude, numeral_text]
    rfl
  have hexponent : (Numeral.ofText d.text.toList).exponent = 0 := by
    rw [numeral_text]
    rfl
  rw [Numeral.toRat, Numeral.base, hsigned, hscale, hexponent, zpow_zero, mul_one, toRat]

end TableTransfer.Decimal
