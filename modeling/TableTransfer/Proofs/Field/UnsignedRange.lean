import TableTransfer.Proofs.Field.DecimalForms
import TableTransfer.Proofs.Field.Width

namespace TableTransfer

def IsUnsigned (width : Nat) (n : Int) : Prop := 0 ≤ n ∧ n < 2 ^ width

/-- The whole number that a value of a record is, whatever sign its zero has. -/
def Value.wholeNumber? : Value → Option Int
  | int n => some n.toInt
  | long n => some n.toInt
  | decimal d => if d.isWhole then some d.whole else none
  | _ => none

namespace MySql

variable {c : Column} {f : Field} {family : Family} {width : Nat} {n : Int}

/-- The words that a column takes which is unsigned by its name. -/
def namedRange (c : Column) (family : Family) (width : Nat) : Set Int :=
  if family = .bigInt then Set.univ else Set.Icc 0 (2 ^ unsignedWidth c width - 1)

theorem isYear_of_named (hname : isUnsignedName c.typeName = true) :
    isYear c.typeName = false := by
  rw [← Bool.not_eq_true]
  intro hyear
  rw [isUnsignedName_of_isYear hyear] at hname
  cases hname

theorem mem_namedRange (hn : IsUnsigned (unsignedWidth c width) n) :
    n ∈ namedRange c family width := by
  rw [namedRange]
  split
  · exact trivial
  · exact ⟨hn.1, Int.le_sub_one_of_lt hn.2⟩

section

variable (hfamily : c.code.family? = some family) (hwidth : family.width? = some width)
include hfamily hwidth

theorem unsignedWidth_of_bigInt (hbig : family = .bigInt) : unsignedWidth c width = 64 := by
  subst hbig
  cases hwidth
  rw [unsignedWidth, TypeCode.is_eq_decide, TypeCode.standard?_of_width? hfamily rfl]
  rfl

theorem isUnsigned_of_mem_namedRange_iff (hword : n < 2 ^ 64) :
    (n ∈ namedRange c family width → IsUnsigned (unsignedWidth c width) n) ↔
      (family = .bigInt → 0 ≤ n) := by
  by_cases hbig : family = .bigInt
  · have hmem : n ∈ namedRange c family width := by
      rw [namedRange, if_pos hbig]
      exact trivial
    rw [imp_iff_right hmem, imp_iff_right hbig, unsignedWidth_of_bigInt hfamily hwidth hbig]
    exact ⟨fun h => h.1, fun h => ⟨h, hword⟩⟩
  · apply iff_of_true
    · intro hn
      rw [namedRange, if_neg hbig] at hn
      exact ⟨hn.1, Int.lt_of_le_sub_one hn.2⟩
    · exact fun h => absurd h hbig

variable (hname : isUnsignedName c.typeName = true)
include hname

theorem checkedRange_eq_namedRange {general : Set Int}
    (hgeneral : family = .bigInt → general = Set.univ) :
    checkedRange c general = namedRange c family width := by
  rw [checkedRange_of_named hfamily hwidth hname, namedRange]
  split
  · rename_i hbig
    exact hgeneral hbig
  · rfl

theorem exists_infer_of_named :
    ∃ s, c.infer .mysql = .ok ⟨s, c.nullable⟩ ∧
      (family ≠ .bigInt ∧ (s = .int ∨ s = .long) ∨ family = .bigInt ∧ s = .decimal 20 0) := by
  have hyear := isYear_of_named hname
  have hunsigned : isUnsigned c = true := by rw [isUnsigned, hname, Bool.or_true]
  have hcode := TypeCode.standard?_of_width? hfamily hwidth
  have hinfer {s : Shape} (h : type? c = some s) : c.infer .mysql = .ok ⟨s, c.nullable⟩ := by
    have htype : Vendor.mysql.type? c = some s := h
    rw [Column.infer, htype, Option.some_or]
  cases family with
  | tinyInt | smallInt =>
      have htype := type?_of_unsigned hcode (by decide) hunsigned hyear
      exact ⟨_, hinfer htype, .inl ⟨by decide, .inl rfl⟩⟩
  | integer =>
      have htype := type?_of_unsigned hcode (by decide) hunsigned hyear
      refine ⟨_, hinfer htype, .inl ⟨by decide, ?_⟩⟩
      cases isMediumInt c.typeName with
      | true => exact .inl rfl
      | false => exact .inr rfl
  | bigInt =>
      have htype := type?_of_unsigned hcode (by decide) hunsigned hyear
      exact ⟨_, hinfer htype, .inr ⟨rfl, rfl⟩⟩
  | boolean | real | float | double | numeric | text | binary | date | time | timestamp
  | zonedTimestamp => cases hwidth

theorem takes_ints_of_named : c.Takes .mysql .int Int32.toInt (namedRange c family width) := by
  have hall : family = .bigInt → family.intRange = Set.univ := by
    rintro rfl
    rfl
  have hrange : intRange c family = checkedRange c family.intRange := by
    rw [intRange, isYear_of_named hname, if_neg Bool.false_ne_true]
  rw [← checkedRange_eq_namedRange hfamily hwidth hname hall, ← hrange]
  exact takes_ints hfamily hwidth

theorem takes_longs_of_named : c.Takes .mysql .long Int64.toInt (namedRange c family width) := by
  have hall : family = .bigInt → family.longRange = Set.univ := by
    rintro rfl
    rfl
  rw [← checkedRange_eq_namedRange hfamily hwidth hname hall]
  exact takes_longs hfamily hwidth

theorem isUnsignedBigInt_iff_of_named :
    isUnsignedBigInt c.code c.typeName = true ↔ family = .bigInt := by
  rw [isUnsignedBigInt_iff, TypeCode.standard?_of_width? hfamily hwidth, and_iff_left hname]
  cases family <;> cases hwidth <;> decide

theorem bindsOnly_decimal_iff (f : Field) (i : Nat) (d : Decimal) :
    f.BindsOnly .mysql (c.columnType (i + 1)) (.decimal d) (IsUnsigned (unsignedWidth c width)) ↔
      (family = .bigInt ∧ d.negative = false ∧ d.isWhole = true → d.whole < 2 ^ 64) := by
  have hbigInt := isUnsignedBigInt_iff_of_named hfamily hwidth hname
  by_cases hkept : family = .bigInt ∧ d.negative = false ∧ d.isWhole = true
  · obtain ⟨hbig, hsign, hwhole⟩ := hkept
    have hnumber := Decimal.isNumber_whole hwhole
    have hbinds := binds_decimal (f := f) (hbigInt.2 hbig) hsign hwhole i
    rw [hbinds.bindsOnly_iff (.decimal hnumber), unsignedWidth_of_bigInt hfamily hwidth hbig,
      imp_iff_right ⟨hbig, hsign, hwhole⟩]
    exact and_iff_right (Decimal.whole_nonneg hsign)
  · apply iff_of_true _ fun h => absurd h hkept
    refine .inr (rejects_decimal hfamily hwidth ?_ (i + 1))
    exact fun h => hkept ⟨hbigInt.1 h.1, h.2⟩

/-- Of the values that are inferred for the column and are whole numbers of its width, it takes all
but the decimal zeros with a sign. -/
theorem exists_binds_iff {s : Shape} {v : Value}
    (hinfer : c.infer .mysql = .ok ⟨s, c.nullable⟩) (hshape : v.HasShape s)
    (hv : v.wholeNumber? = some n) (hn : IsUnsigned (unsignedWidth c width) n) (f : Field)
    (i : Nat) :
    (∃ p, f.Binds .mysql (c.columnType (i + 1)) v p ∧ p.IsNumber n) ↔
      ∀ d, v = .decimal d → d.negative = false := by
  have hmem : n ∈ namedRange c family width := mem_namedRange hn
  cases v with
  | int w =>
      obtain rfl := Option.some.inj hv
      apply iff_of_true _ fun _ h => by cases h
      exact (takes_ints_of_named hfamily hwidth hname f i w).1 hmem
  | long w =>
      obtain rfl := Option.some.inj hv
      apply iff_of_true _ fun _ h => by cases h
      exact (takes_longs_of_named hfamily hwidth hname f i w).1 hmem
  | decimal d =>
      have hbig : family = .bigInt := by
        obtain ⟨t, ht, hkind⟩ := exists_infer_of_named hfamily hwidth hname
        obtain ⟨precision, scale, rfl⟩ := hshape.shape_eq_decimal
        cases ht.symm.trans hinfer
        rcases hkind with ⟨-, h | h⟩ | ⟨hbig, -⟩
        · cases h
        · cases h
        · exact hbig
      have hunsigned := (isUnsignedBigInt_iff_of_named hfamily hwidth hname).2 hbig
      obtain ⟨hwhole, rfl⟩ : d.isWhole = true ∧ d.whole = n := by
        simpa [Value.wholeNumber?] using hv
      constructor
      · rintro ⟨p, hp, -⟩ _ hd
        cases hd
        by_contra hsign
        exact hp.not_rejects (rejects_decimal hfamily hwidth (fun h => hsign h.2.1) (i + 1))
      · intro h
        have hsign := h d rfl
        have hnumber := Decimal.isNumber_whole hwhole
        exact ⟨_, binds_decimal hunsigned hsign hwhole i, .decimal hnumber⟩
  | null | boolean _ | float _ | double _ | bytes _ | string _ | array _ | record _ => cases hv

/-- A column that is unsigned by its name binds numbers of its width without a sign, and refuses all
else, as long as it is not one of 64 bits: that one takes negative words, and decimals of any size. Of
the values that are inferred for it, it takes every number of its width, apart from a decimal zero
with a sign. -/
theorem unsigned_writes_iff (f : Field) (i : Nat) :
    (∀ w : Int32, f.BindsOnly .mysql (c.columnType (i + 1)) (.int w)
        (IsUnsigned (unsignedWidth c width)) ↔ (family = .bigInt → 0 ≤ w.toInt)) ∧
    (∀ w : Int64, f.BindsOnly .mysql (c.columnType (i + 1)) (.long w)
        (IsUnsigned (unsignedWidth c width)) ↔ (family = .bigInt → 0 ≤ w.toInt)) ∧
    (∀ d : Decimal, f.BindsOnly .mysql (c.columnType (i + 1)) (.decimal d)
        (IsUnsigned (unsignedWidth c width)) ↔
          (family = .bigInt ∧ d.negative = false ∧ d.isWhole = true → d.whole < 2 ^ 64)) ∧
    ∃ t, c.infer .mysql = .ok t ∧ ∀ v n, v.HasShape t.shape → v.wholeNumber? = some n →
      IsUnsigned (unsignedWidth c width) n →
        ((∃ p, f.Binds .mysql (c.columnType (i + 1)) v p ∧ p.IsNumber n) ↔
          ∀ d, v = .decimal d → d.negative = false) := by
  refine ⟨?_, ?_, bindsOnly_decimal_iff hfamily hwidth hname f i, ?_⟩
  · intro w
    have hword : w.toInt < 2 ^ 64 := w.toInt_lt.trans (by decide)
    rw [(takes_ints_of_named hfamily hwidth hname).bindsOnly_iff]
    exact isUnsigned_of_mem_namedRange_iff hfamily hwidth hword
  · intro w
    have hword : w.toInt < 2 ^ 64 := w.toInt_lt.trans (by decide)
    rw [(takes_longs_of_named hfamily hwidth hname).bindsOnly_iff]
    exact isUnsigned_of_mem_namedRange_iff hfamily hwidth hword
  · obtain ⟨s, hinfer, -⟩ := exists_infer_of_named hfamily hwidth hname
    refine ⟨_, hinfer, fun v n hshape hv hn => ?_⟩
    exact exists_binds_iff hfamily hwidth hname hinfer hshape hv hn f i

end

theorem unsigned_writes_byte :
    StandardType.tinyInt.code.family? = some .tinyInt ∧ Family.tinyInt.width? = some 8 ∧
      isUnsignedName "TINYINT UNSIGNED" = true ∧
      ∀ w : Int64, Field.BindsOnly .mysql ⟨"AGE", ⟨.long, true⟩⟩
        (Column.columnType { name := "AGE", code := StandardType.tinyInt.code,
                             typeName := "TINYINT UNSIGNED", signed := false } 1)
        (.long w) (IsUnsigned 8) :=
  ⟨rfl, rfl, rfl, fun w => ((unsigned_writes_iff
    (c := { name := "AGE", code := StandardType.tinyInt.code, typeName := "TINYINT UNSIGNED",
            signed := false })
    rfl rfl rfl ⟨"AGE", ⟨.long, true⟩⟩ 0).2.1 w).2 fun h => by cases h⟩

/-- A column of 64 bits without a sign takes a negative word, and a decimal of 65 bits. -/
theorem unsigned_takes_negative_word :
    (Field.write .mysql ⟨"N", ⟨.long, true⟩⟩
        (Column.columnType { name := "N", code := StandardType.bigInt.code,
                             typeName := "BIGINT UNSIGNED", signed := false } 1)
        (.long (-1))).runOn ({} : Statement) = (.ok (), { params := [⟨1, .i64 (-1)⟩] }) ∧
      (Field.write .mysql ⟨"N", ⟨.decimal 20 0, true⟩⟩
        (Column.columnType { name := "N", code := StandardType.bigInt.code,
                             typeName := "BIGINT UNSIGNED", signed := false } 1)
        (.decimal (.ofNat false 0x10000000000000000 (by decide)))).runOn ({} : Statement) =
      (.ok (), { params := [⟨1, .decimal (.ofNat false 0x10000000000000000 (by decide))⟩] }) :=
  ⟨rfl, rfl⟩

end MySql

end TableTransfer
