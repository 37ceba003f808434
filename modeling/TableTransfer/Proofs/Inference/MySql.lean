import TableTransfer.Proofs.Inference.Validated

namespace TableTransfer.MySql

variable {c : Column} {s : Shape}

theorem isUnsignedName_of_isYear {typeName : String} (h : isYear typeName = true) :
    isUnsignedName typeName = false := by
  have hlength : typeName.toList.length = 4 := by
    have hlower := congrArg String.toList (beq_iff_eq.1 h)
    simpa [Text.lower] using congrArg List.length hlower
  cases hname : Text.dropEnd? "UNSIGNED".toList (Text.upper typeName).toList with
  | none => rw [isUnsignedName, hname]; rfl
  | some rest =>
      have hupper := congrArg List.length (Text.dropEnd?_eq_some_iff.1 hname)
      simp [Text.upper, hlength] at hupper

/-- The columns that MySQL has a type of its own for. -/
inductive Gives (c : Column) : Shape → Prop
  | flag (h : c.code.standard? = some .tinyInt) (hsigned : isUnsigned c = false) :
      Gives c .boolean
  | bits (h : c.code.standard? = some .bit) (hmany : 1 < c.precision) : Gives c .bytes
  | bit (h : c.code.standard? = some .bit) (hone : ¬1 < c.precision) : Gives c .boolean
  | year (h : c.code.standard? ≠ some .bit) (hyear : isYear c.typeName = true) : Gives c .int
  | small (hyear : isYear c.typeName = false) (hunsigned : isUnsigned c = true)
      (h : c.code.standard? = some .tinyInt ∨ c.code.standard? = some .smallInt) : Gives c .int
  | medium (hyear : isYear c.typeName = false) (hunsigned : isUnsigned c = true)
      (h : c.code.standard? = some .integer) (hmedium : isMediumInt c.typeName = true) :
      Gives c .int
  | wide (hyear : isYear c.typeName = false) (hunsigned : isUnsigned c = true)
      (h : c.code.standard? = some .integer) (hmedium : isMediumInt c.typeName = false) :
      Gives c .long
  | big (hyear : isYear c.typeName = false) (hunsigned : isUnsigned c = true)
      (h : c.code.standard? = some .bigInt) : Gives c (.decimal 20 0)

theorem gives_of_type? (h : type? c = some s) : Gives c s := by
  simp only [type?] at h
  split at h
  · rename_i hflag
    simp only [Bool.and_eq_true, TypeCode.is_iff, Bool.not_eq_true'] at hflag
    cases h
    exact .flag hflag.1.1 hflag.2
  split at h
  · rename_i hbit
    rw [TypeCode.is_iff] at hbit
    cases h
    split
    · exact .bits hbit ‹_›
    · exact .bit hbit ‹_›
  rename_i hbit
  rw [TypeCode.is_iff] at hbit
  split at h
  · cases h
    exact .year hbit ‹_›
  rename_i hyear
  rw [Bool.not_eq_true] at hyear
  split at h
  · rename_i hunsigned
    generalize hcode : c.code.standard? = code at h
    split at h
    · cases h
      exact .small hyear hunsigned (.inl hcode)
    · cases h
      exact .small hyear hunsigned (.inr hcode)
    · cases hmedium : isMediumInt c.typeName with
      | true =>
          rw [hmedium] at h
          cases h
          exact .medium hyear hunsigned hcode hmedium
      | false =>
          rw [hmedium] at h
          cases h
          exact .wide hyear hunsigned hcode hmedium
    · cases h
      exact .big hyear hunsigned hcode
    · cases h
  · cases h

/-- An INTEGER that is signed by its flag and unsigned by its name is given the wide type, which
only unsigned flags are said to hold. -/
def refusesOwnType (c : Column) : Bool :=
  c.code.is .integer && c.signed && isUnsignedName c.typeName && !isMediumInt c.typeName

theorem refusesOwnType_eq_false (h : c.code.standard? ≠ some .integer) :
    refusesOwnType c = false := by
  have hcode : c.code.is .integer = false := by rwa [← Bool.not_eq_true, TypeCode.is_iff]
  rw [refusesOwnType, hcode]
  rfl

theorem Gives.holds_iff (h : Gives c s) :
    (accepts? s.required c).getD (s.fits c) = true ↔ refusesOwnType c = false := by
  cases h with
  | flag h => simp [accepts?, Shape.required, Shape.physical, h, refusesOwnType_eq_false]
  | bits h hmany =>
      simp [accepts?, Shape.required, Shape.physical, Shape.logical?, h, hmany,
        refusesOwnType_eq_false]
  | bit h =>
      simp [accepts?, Shape.required, Shape.physical, Shape.fits, TypeCode.family?,
        StandardType.family?, h, refusesOwnType_eq_false]
  | year h hyear =>
      have hname := isUnsignedName_of_isYear hyear
      simp [accepts?, Shape.required, Shape.physical, Shape.logical?, hyear, refusesOwnType, hname]
  | small hyear hunsigned h =>
      rcases h with h | h <;>
        simp [accepts?, Shape.required, Shape.physical, Shape.fits, TypeCode.family?,
          StandardType.family?, h, hyear, refusesOwnType_eq_false]
  | medium hyear hunsigned h hmedium =>
      simp [accepts?, Shape.required, Shape.physical, h, hyear, hunsigned, hmedium, refusesOwnType]
  | wide hyear hunsigned h hmedium =>
      rw [isUnsigned, Bool.or_eq_true, Bool.not_eq_true'] at hunsigned
      have hcode : c.code.is .integer = true := TypeCode.is_iff.2 h
      cases hsigned : c.signed with
      | false =>
          simp [accepts?, Shape.required, Shape.physical, Shape.fits, TypeCode.family?,
            StandardType.family?, h, refusesOwnType, hsigned]
      | true =>
          have hname : isUnsignedName c.typeName = true :=
            hunsigned.resolve_left (by simp [hsigned])
          simp [accepts?, Shape.required, Shape.physical, Shape.fits, TypeCode.family?,
            StandardType.family?, h, refusesOwnType, hsigned, hcode, hname, hmedium]
  | big hyear hunsigned h =>
      simp [accepts?, Shape.required, Shape.physical, Shape.decimalScale?, h, hunsigned,
        refusesOwnType_eq_false]

theorem not_unsigned_of_type?_eq_none (h : type? c = none) :
    c.code.standard? ≠ some .bit ∧ isYear c.typeName = false ∧
      (isUnsigned c = true →
        c.code.standard? ≠ some .integer ∧ c.code.standard? ≠ some .bigInt) := by
  simp only [type?] at h
  split at h
  · cases h
  split at h
  · cases h
  rename_i hbit
  rw [TypeCode.is_iff] at hbit
  split at h
  · cases h
  rename_i hyear
  rw [Bool.not_eq_true] at hyear
  refine ⟨hbit, hyear, fun hunsigned => ⟨fun hcode => ?_, fun hcode => ?_⟩⟩
  · rw [if_pos hunsigned, hcode] at h
    cases h
  · rw [if_pos hunsigned, hcode] at h
    cases h

theorem accepts?_ne_false_of_type?_eq_none (h : type? c = none) :
    accepts? s.required c ≠ some false := by
  obtain ⟨hbit, hyear, hunsigned⟩ := not_unsigned_of_type?_eq_none h
  generalize hcode : c.code.standard? = code at hbit hunsigned
  simp only [accepts?, hyear, hcode]
  split
  · simp
  · exact absurd rfl hbit
  · cases hu : isUnsigned c with
    | false => simp
    | true => simp [(hunsigned hu).1]
  · cases hu : isUnsigned c with
    | false => simp
    | true => exact absurd rfl (hunsigned hu).2
  · simp

theorem refusesOwnType_of_type?_eq_none (h : type? c = none) : refusesOwnType c = false := by
  obtain ⟨-, -, hunsigned⟩ := not_unsigned_of_type?_eq_none h
  by_cases hcode : c.code.standard? = some .integer
  · have hsigned : isUnsigned c = false := by
      rw [← Bool.not_eq_true]
      exact fun hu => (hunsigned hu).1 hcode
    rw [isUnsigned, Bool.or_eq_false_iff] at hsigned
    simp [refusesOwnType, hsigned.2]
  · exact refusesOwnType_eq_false hcode

theorem isCompatible_iff_of_infer {t : UniversalType} (h : c.infer .mysql = .ok t) :
    t.isCompatible .mysql c = true ↔ refusesOwnType c = false := by
  simp only [Column.infer] at h
  split at h
  · rename_i s hs
    cases h
    change (accepts? s.required c).getD (s.fits c) = true ↔ _
    cases htype : type? c with
    | some own =>
        obtain rfl : own = s := by simpa [Vendor.type?, htype] using hs
        exact (gives_of_type? htype).holds_iff
    | none =>
        have hgeneral : c.genericShape? = some s := by simpa [Vendor.type?, htype] using hs
        have hfits := Column.fits_of_genericShape? hgeneral
        have haccepts := accepts?_ne_false_of_type?_eq_none (s := s) htype
        refine iff_of_true ?_ (refusesOwnType_of_type?_eq_none htype)
        cases hanswer : accepts? s.required c with
        | none => exact hfits
        | some answer =>
            rw [hanswer] at haccepts
            simpa using haccepts
  · cases h

/-- A type that is inferred for a MySQL column is one that the column is said to hold, and a schema
that is inferred is valid for its columns, unless a column is a whole number that only its name
calls unsigned; then neither is so. -/
theorem inferred_accepted_iff (role : Role) :
    (∀ c t, c.infer .mysql = .ok t →
      (t.isCompatible .mysql c = true ↔ refusesOwnType c = false)) ∧
    ∀ cs fields, Column.inferAll .mysql cs = .ok fields →
      (Schema.validate .mysql role fields cs = [] ↔ ∀ c ∈ cs, refusesOwnType c = false) := by
  refine ⟨fun c t => isCompatible_iff_of_infer, fun cs fields h => ?_⟩
  rw [Schema.validate_inferred_eq_nil_iff h]
  obtain ⟨hall, -, -⟩ := Column.inferFrom_eq_ok h
  constructor
  · intro hholds c hc
    obtain ⟨f, -, hinfers⟩ := exists_right_of_forall₂ hall hc
    exact (isCompatible_iff_of_infer hinfers.infer_eq).1 (hholds c hc _ hinfers.infer_eq)
  · intro hown c hc t ht
    exact (isCompatible_iff_of_infer ht).2 (hown c hc)

theorem refused_when_unsigned_by_name :
    ∃ t, Column.infer .mysql
        { name := "STOCK", code := StandardType.integer.code,
          typeName := "INT UNSIGNED" } = .ok t ∧
      t.isCompatible .mysql
        { name := "STOCK", code := StandardType.integer.code, typeName := "INT UNSIGNED" } = false :=
  ⟨⟨.long, true⟩, rfl, rfl⟩

end TableTransfer.MySql
