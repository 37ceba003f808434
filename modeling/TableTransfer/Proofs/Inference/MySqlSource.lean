import TableTransfer.Dialect.MySqlSource
import TableTransfer.Proofs.Field.Unsigned
import TableTransfer.Proofs.Text.Ascii

namespace TableTransfer

namespace MySql

/-- MySQL's types of whole numbers; a boolean is a tiny integer. -/
inductive WholeType where
  | tinyInt | smallInt | mediumInt | int | bigInt
deriving DecidableEq

namespace WholeType

def ofBaseName? : String → Option WholeType
  | "TINYINT" | "BOOLEAN" | "BOOL" => some tinyInt
  | "SMALLINT" => some smallInt
  | "MEDIUMINT" => some mediumInt
  | "INT" | "INTEGER" => some int
  | "BIGINT" => some bigInt
  | _ => none

def bits : WholeType → Nat
  | tinyInt => 8
  | smallInt => 16
  | mediumInt => 24
  | int => 32
  | bigInt => 64

/-- The numbers of the type: from zero up, or half of them below zero. -/
def Holds (w : WholeType) (unsigned : Bool) (n : Int) : Prop :=
  if unsigned then 0 ≤ n ∧ n < 2 ^ w.bits else -2 ^ (w.bits - 1) ≤ n ∧ n < 2 ^ (w.bits - 1)

def code : WholeType → StandardType
  | tinyInt => .tinyInt
  | smallInt => .smallInt
  | mediumInt | int => .integer
  | bigInt => .bigInt

end WholeType

section

variable {typeName : String} {w : WholeType}

theorem isUnsignedName_upper (typeName : String) :
    isUnsignedName (Text.upper typeName) = isUnsignedName typeName := by
  rw [isUnsignedName, isUnsignedName, Text.upper_upper]

theorem baseName_upper (typeName : String) :
    baseName (Text.upper typeName) = baseName typeName := by
  rw [baseName, baseName, Text.upper_upper]

theorem isUnsignedName_tinyInt : isUnsignedName "TINYINT" = false := by decide

theorem isUnsignedName_of_boolean (h : Text.upper typeName = "BOOLEAN") :
    isUnsignedName typeName = false := by
  rw [isUnsignedName, h]
  rfl

theorem baseName_of_boolean (h : Text.upper typeName = "BOOLEAN") :
    baseName typeName = "BOOLEAN" := by
  rw [baseName, h]
  rfl

theorem baseName_of_isYear (h : isYear (Text.upper typeName) = true) :
    baseName typeName = "YEAR" := by
  have hupper : Text.upper typeName = "YEAR" := by
    rw [← Text.upper_upper, Text.upper_eq_of_sameLetters h]
    rfl
  rw [baseName, hupper]
  rfl

theorem codeOf_of_ofBaseName? (h : WholeType.ofBaseName? (baseName typeName) = some w) :
    codeOf typeName = w.code.code := by
  generalize hbase : baseName typeName = base at h
  simp only [WholeType.ofBaseName?] at h
  split at h <;> cases h <;> rw [codeOf, hbase] <;> rfl

theorem isMediumInt_of_ofBaseName? (h : WholeType.ofBaseName? (baseName typeName) = some w) :
    isMediumInt typeName = decide (w = .mediumInt) := by
  generalize hbase : baseName typeName = base at h
  simp only [WholeType.ofBaseName?] at h
  split at h <;> cases h <;> rw [isMediumInt, hbase] <;> rfl

end

section

variable {name typeName : String} {nullable : Bool}

theorem columnOf_of_boolean (h : Text.upper typeName = "BOOLEAN") :
    columnOf name typeName nullable =
      { name, code := StandardType.tinyInt.code, typeName := "TINYINT", precision := 1
        nullable } := by
  rw [columnOf, if_pos h, isUnsignedName_of_boolean h]
  rfl

theorem columnOf_of_other (h : Text.upper typeName ≠ "BOOLEAN") :
    columnOf name typeName nullable =
      { name, code := codeOf typeName, typeName := Text.upper typeName
        signed := !isUnsignedName typeName, nullable } :=
  if_neg h

theorem name_columnOf : (columnOf name typeName nullable).name = name := by
  by_cases h : Text.upper typeName = "BOOLEAN"
  · rw [columnOf_of_boolean h]
  · rw [columnOf_of_other h]

theorem signed_columnOf :
    (columnOf name typeName nullable).signed =
      !isUnsignedName (columnOf name typeName nullable).typeName := by
  by_cases h : Text.upper typeName = "BOOLEAN"
  · rw [columnOf_of_boolean h]
    dsimp only
    rw [isUnsignedName_tinyInt, Bool.not_false]
  · rw [columnOf_of_other h]
    dsimp only
    rw [isUnsignedName_upper]

theorem not_refusesOwnType_columnOf :
    refusesOwnType (columnOf name typeName nullable) = false := by
  rw [refusesOwnType, signed_columnOf]
  cases isUnsignedName (columnOf name typeName nullable).typeName
  · rw [Bool.and_false, Bool.false_and]
  · rw [Bool.not_true, Bool.and_false, Bool.false_and, Bool.false_and]

theorem not_misreads_columnOf : misreads (columnOf name typeName nullable) = false := by
  rw [misreads]
  split
  · rename_i hyear
    by_cases h : Text.upper typeName = "BOOLEAN"
    · rw [columnOf_of_boolean h]
      rfl
    · rw [columnOf_of_other h] at hyear ⊢
      dsimp only
      rw [codeOf, baseName_of_isYear hyear]
      rfl
  · rw [signed_columnOf, Bool.not_not]
    cases isUnsignedName (columnOf name typeName nullable).typeName
    · rw [Bool.and_false, Bool.false_and]
    · rw [Bool.not_true, Bool.and_false]

end

structure IsWhole (c : Column) (w : WholeType) (unsigned : Bool) : Prop where
  standard?_eq : c.code.standard? = some w.code
  precision_eq : c.precision = 0
  not_year : isYear c.typeName = false
  named_eq : isUnsignedName c.typeName = unsigned
  medium_eq : isMediumInt c.typeName = decide (w = .mediumInt)
  signed_eq : c.signed = !unsigned

theorem isWhole_columnOf {name typeName : String} {nullable : Bool} {w : WholeType}
    (hboolean : Text.upper typeName ≠ "BOOLEAN")
    (hw : WholeType.ofBaseName? (baseName typeName) = some w) :
    IsWhole (columnOf name typeName nullable) w (isUnsignedName typeName) := by
  rw [columnOf_of_other hboolean]
  constructor
  · dsimp only
    rw [codeOf_of_ofBaseName? hw, TypeCode.standard?_code]
  · rfl
  · rw [← Bool.not_eq_true]
    intro hyear
    rw [baseName_of_isYear hyear] at hw
    cases hw
  · exact isUnsignedName_upper typeName
  · dsimp only
    rw [isMediumInt, baseName_upper]
    exact isMediumInt_of_ofBaseName? hw
  · rfl

def WholeType.shape (w : WholeType) (unsigned : Bool) : Shape :=
  match w with
  | tinyInt | smallInt | mediumInt => .int
  | int => if unsigned then .long else .int
  | bigInt => if unsigned then .decimal 20 0 else .long

namespace IsWhole

variable {c : Column} {w : WholeType} {unsigned : Bool} {t : UniversalType}

theorem isUnsigned_eq (h : IsWhole c w unsigned) : isUnsigned c = unsigned := by
  rw [isUnsigned, h.signed_eq, h.named_eq, Bool.not_not, Bool.or_self]

theorem family?_eq (h : IsWhole c w unsigned) : c.code.family? = w.code.family? :=
  family?_of_standard? h.standard?_eq

theorem type?_of_signed (h : IsWhole c w false) : type? c = none := by
  have hbit : c.code.is .bit = false := by
    rw [TypeCode.is_eq_decide, h.standard?_eq]
    cases w <;> rfl
  rw [type?, h.isUnsigned_eq, h.not_year, h.precision_eq, hbit]
  rw [beq_false_of_ne (by decide : (0 : Int) ≠ 1), Bool.and_false, Bool.false_and]
  rfl

theorem shape_eq (h : IsWhole c w unsigned) (hinfer : c.infer .mysql = .ok t) :
    t.shape = w.shape unsigned := by
  cases unsigned with
  | true =>
      have hbit : w.code ≠ .bit := by cases w <;> decide
      have htype := type?_of_unsigned h.standard?_eq hbit h.isUnsigned_eq h.not_year
      rw [h.medium_eq] at htype
      apply shape_of_type? hinfer
      rw [htype]
      cases w <;> rfl
  | false =>
      have hs : (type? c).or c.genericShape? = some t.shape := Column.shape_of_infer hinfer
      rw [h.type?_of_signed, Option.none_or, Column.genericShape?, h.family?_eq] at hs
      have hsigned := h.signed_eq
      cases w with
      | tinyInt | smallInt | bigInt => exact (Option.some.inj hs).symm
      | mediumInt | int =>
          change some (if c.signed then Shape.int else .long) = _ at hs
          rw [hsigned] at hs
          exact (Option.some.inj hs).symm

end IsWhole

end MySql

/-- Each row that holds one of the numbers is read, as a value that stands for it or as the flag
that tells whether it is zero. What a row is read as, and stands for one of the numbers, can be
written, and a row that holds what was written is read as the same value. The exception is a zero
that is read with a sign: it is refused. -/
structure Column.ReadsBack (vendor : Vendor) (c : Column) (s : Shape) (holds : Int → Prop) :
    Prop where
  reads {f : Field} {ordinal : Nat} {cur : Cursor} {p : SqlValue} {n : Int}
    (hshape : f.type.shape = s) (hp : cur.value ordinal = .ok p) (hn : p.IsNumber n)
    (hheld : holds n) :
    ∃ v, f.read vendor cur (c.columnType ordinal) = .ok v ∧
      (v.IsNumber n ∨ v = .boolean (n ≠ 0))
  writes {f : Field} {ordinal : Nat} {cur : Cursor} {v : Value} {n : Int}
    (hshape : f.type.shape = s) (hv : f.read vendor cur (c.columnType ordinal) = .ok v)
    (hn : v.IsNumber n) (hheld : holds n) (hplain : ¬v.IsSignedZero) :
    ∃ p, (∀ statement : Statement, (f.write vendor (c.columnType ordinal) v).runOn statement =
        (.ok (), { statement with params := statement.params ++ [⟨ordinal, p⟩] })) ∧
      ∀ cur' : Cursor, cur'.value ordinal = .ok p →
        f.read vendor cur' (c.columnType ordinal) = .ok v
  refuses {f : Field} {ordinal : Nat} {cur : Cursor} {v : Value}
    (hshape : f.type.shape = s) (hv : f.read vendor cur (c.columnType ordinal) = .ok v)
    (hzero : v.IsSignedZero) (statement : Statement) :
    ∃ e, (f.write vendor (c.columnType ordinal) v).runOn statement = (.error e, statement)

theorem Column.ReadsBack.of_carries {vendor : Vendor} {c : Column} {s : Shape} {k : Word}
    {holds : Int → Prop} {low high : Int} (h : c.Carries vendor s k low high)
    (hholds : ∀ n, holds n → (k.least ≤ n ∧ n ≤ k.greatest) ∧ low ≤ n ∧ n ≤ high) :
    c.ReadsBack vendor s holds where
  reads := by
    intro f ordinal cur p n hshape hp hn hheld
    obtain ⟨a, rfl⟩ := Word.exists_number_iff.2 (hholds n hheld).1
    have hread := h.reads.read_of_given hshape (Word.getter_eq hp hn) (Word.value_ne_null a)
    exact ⟨_, hread, .inl (Word.isNumber_value_iff.2 rfl)⟩
  writes := by
    intro f ordinal cur v n hshape hv hn hheld _
    obtain ⟨a, ha, rfl⟩ := h.reads.given_of_read hshape hv hn.ne_null
    obtain rfl := Word.isNumber_value_iff.1 hn
    obtain ⟨p, hwrites, hback⟩ := h.exists_reads_back (hholds _ hheld).2
    exact ⟨p, hwrites.runOn hshape (Word.index_ne_zero ha), fun cur' =>
      hback f ordinal cur' hshape⟩
  refuses := by
    intro f ordinal cur v hshape hv hzero
    obtain ⟨a, -, rfl⟩ := h.reads.given_of_read hshape hv hzero.ne_null
    exact absurd hzero (Word.not_isSignedZero a)

namespace MySql

theorem readsBack_decimal {c : Column} (hcode : c.code.standard? = some .bigInt)
    (hname : isUnsignedName c.typeName = true) (precision scale : Nat) {holds : Int → Prop}
    (hholds : ∀ n, holds n → 0 ≤ n) :
    c.ReadsBack .mysql (.decimal precision scale) holds := by
  have hreads := readsBy_decimal hcode hname precision scale
  constructor
  · intro f ordinal cur p n hshape hp hn _
    obtain ⟨d, hget, hnumber, -⟩ := Cursor.exists_decimal hp hn
    exact ⟨_, hreads.read_of_given hshape hget Value.noConfusion, .inl (.decimal hnumber)⟩
  · intro f ordinal cur v n hshape hv hn hheld hplain
    obtain ⟨d, hd, rfl⟩ := hreads.given_of_read hshape hv hn.ne_null
    obtain ⟨⟩ | ⟨⟩ | ⟨⟩ | ⟨hnumber⟩ := hn
    have hsign := hnumber.negative_eq_false (hholds n hheld) fun hzero => hplain (.decimal hzero)
    have hwrites := writes_decimal (s := .decimal precision scale) hcode hname hsign
      hnumber.isWhole
    refine ⟨.decimal d, hwrites.runOn hshape (Cursor.index_ne_zero_of_read hd), ?_⟩
    intro cur' hp
    have hconvert : (SqlValue.decimal d).asDecimal? = some d := rfl
    have hget : cur'.decimal ordinal = .ok (some d) := Cursor.read_of_value hp rfl hconvert _
    exact hreads.read_of_given hshape hget Value.noConfusion
  · intro f ordinal cur v hshape hv hzero statement
    obtain ⟨⟨hnegative, -⟩⟩ := hzero
    have hrefuses := refuses_decimal (s := .decimal precision scale) hcode hname hnegative
    exact hrefuses.runOn hshape ordinal statement

theorem writes_flag {c : Column} (hcode : c.code.is .tinyInt = true) (b : Bool) :
    c.Writes .mysql .boolean (.boolean b) (.i16 (if b then 1 else 0)) := by
  apply Column.Writes.of_answered rfl
  intro name ordinal
  exact if_pos hcode

theorem readsBack_flag {c : Column} (hcode : c.code.standard? = some .tinyInt)
    {holds : Int → Prop} (hholds : ∀ n, holds n → -0x80000000 ≤ n ∧ n ≤ 0x7fffffff) :
    c.ReadsBack .mysql .boolean holds := by
  have his : c.code.is .tinyInt = true := TypeCode.is_iff.2 hcode
  have hreads : c.ReadsBy .mysql .boolean (fun n : Int32 => .boolean (n.toInt ≠ 0))
      Cursor.int32 := by
    apply Column.ReadsBy.of_answered
    intro ordinal cur
    exact if_pos his
  have hread {f : Field} {cur : Cursor} {ordinal : Nat} (a : Int32) {p : SqlValue}
      (hshape : f.type.shape = .boolean) (hp : cur.value ordinal = .ok p)
      (hn : p.IsNumber a.toInt) :
      f.read .mysql cur (c.columnType ordinal) = .ok (.boolean (a.toInt ≠ 0)) :=
    hreads.read_of_given hshape (Word.getter_eq (k := .int) hp hn) Value.noConfusion
  constructor
  · intro f ordinal cur p n hshape hp hn hheld
    obtain ⟨a, rfl⟩ := (Word.exists_number_iff (k := .int)).2 (hholds n hheld)
    exact ⟨_, hread a hshape hp hn, .inr rfl⟩
  · intro f ordinal cur v n hshape hv hn _ _
    obtain ⟨a, ha, rfl⟩ := hreads.given_of_read hshape hv hn.ne_null
    refine ⟨_, (writes_flag his _).runOn hshape (Cursor.index_ne_zero_of_read ha), ?_⟩
    intro cur' hp
    cases hflag : decide (a.toInt ≠ 0) with
    | true =>
        rw [hflag] at hp
        exact hread 1 hshape hp (.i16 1)
    | false =>
        rw [hflag] at hp
        exact hread 0 hshape hp (.i16 0)
  · intro f ordinal cur v hshape hv hzero
    obtain ⟨a, -, rfl⟩ := hreads.given_of_read hshape hv hzero.ne_null
    cases hzero

namespace IsWhole

variable {c : Column} {w : WholeType} {k : Word}

theorem readsBack_of_signed {s : Shape} {low high : Int} (h : c.Carries .mysql s k low high)
    (hlow : low ≤ -2 ^ (w.bits - 1) ∧ k.least ≤ -2 ^ (w.bits - 1))
    (hhigh : 2 ^ (w.bits - 1) - 1 ≤ high ∧ 2 ^ (w.bits - 1) - 1 ≤ k.greatest) :
    c.ReadsBack .mysql s (w.Holds false) := by
  apply Column.ReadsBack.of_carries h
  intro n hn
  have hrange : -2 ^ (w.bits - 1) ≤ n ∧ n < 2 ^ (w.bits - 1) := hn
  omega

/-- A column that is unsigned by its name checks the words of its type for the greatest number, if
they are long enough for that number. -/
theorem readsBack_of_unsigned (h : IsWhole c w true) {s : Shape} (hbig : w ≠ .bigInt)
    (hreads : c.ReadsBy .mysql s k.value k.getter) (hbits : 2 ^ w.bits - 1 ≤ k.greatest) :
    c.ReadsBack .mysql s (w.Holds true) := by
  have hmax (ordinal : Nat) : unsignedMax? (c.columnType ordinal) = some (2 ^ w.bits - 1) := by
    have hnamed := unsignedMax?_of_named (c := c.columnType ordinal) h.named_eq h.standard?_eq
    refine hnamed.trans ?_
    change namedMax? (isMediumInt c.typeName) w.code = _
    rw [h.medium_eq]
    cases w with
    | tinyInt | smallInt | mediumInt | int => rfl
    | bigInt => exact absurd rfl hbig
  apply Column.ReadsBack.of_carries (carries_of_named h.not_year k _ hreads hmax)
  intro n hn
  have hrange : 0 ≤ n ∧ n < 2 ^ w.bits := hn
  have hleast : k.least ≤ 0 := by cases k <;> decide
  omega

theorem readsBack {unsigned : Bool} (h : IsWhole c w unsigned) :
    c.ReadsBack .mysql (w.shape unsigned) (w.Holds unsigned) := by
  have hread {s : Shape} (hs : s = .int ∨ s = .long) := read?_of_isWhole h.not_year hs
  have hfamily := h.family?_eq
  cases unsigned with
  | false =>
      have hint := write?_word_of_unnamed (σ := Statement) h.not_year .int h.named_eq
      have hlong := write?_word_of_unnamed (σ := Statement) h.not_year .long h.named_eq
      cases w with
      | tinyInt | smallInt =>
          exact readsBack_of_signed (Column.carries_of_small (hread (.inl rfl)) hfamily (by decide)
            Physical.noConfusion (fun _ _ _ => rfl) (by decide) hint) (by decide) (by decide)
      | mediumInt | int =>
          exact readsBack_of_signed (Column.carries_of_integer (hread (.inl rfl)) hfamily
            Physical.noConfusion hint) (by decide) (by decide)
      | bigInt =>
          exact readsBack_of_signed (Column.carries_of_wide (hread (.inr rfl)) hfamily
            (.inr rfl) hlong) (by decide) (by decide)
  | true =>
      cases w with
      | tinyInt | smallInt | mediumInt =>
          exact h.readsBack_of_unsigned (k := .int) (by decide) (Column.readsBy_int hfamily
            (by decide) Physical.noConfusion (hread (.inl rfl))) (by decide)
      | int =>
          exact h.readsBack_of_unsigned (k := .long) (by decide) (Column.readsBy_long hfamily
            (.inl ⟨rfl, rfl⟩) (hread (.inr rfl))) (by decide)
      | bigInt => exact readsBack_decimal h.standard?_eq h.named_eq 20 0 fun n hn => hn.1

end IsWhole

variable {name typeName : String} {nullable : Bool} {t : UniversalType}

/-- A column that is described from the server's type name is consistent with the type that is
inferred for it: the schema of this type has no problem with the column, in either role, the values
that are read have the shape of the type, and where MySQL's type is one of whole numbers, the rows
that hold its numbers are read, and each value that is read and stands for a number of this type
can be written, and is read again from the row that is written. Only a decimal zero that is read with
a sign is refused. -/
theorem columnOf_consistent (h : (columnOf name typeName nullable).infer .mysql = .ok t) :
    (∀ role, Schema.validate .mysql role [⟨name, t⟩] [columnOf name typeName nullable] = []) ∧
    (∀ ordinal cur v,
      Field.read .mysql ⟨name, t⟩ cur ((columnOf name typeName nullable).columnType ordinal) =
        .ok v → v ≠ .null → v.HasShape t.shape) ∧
    ∀ w, WholeType.ofBaseName? (baseName typeName) = some w →
      (columnOf name typeName nullable).ReadsBack .mysql t.shape
        (w.Holds (isUnsignedName typeName)) := by
  refine ⟨?_, ?_, ?_⟩
  · intro role
    have hall : Column.inferAll .mysql [columnOf name typeName nullable] = .ok [⟨name, t⟩] := by
      simp only [Column.inferAll, Column.inferFrom, h, name_columnOf]
      rfl
    apply (Schema.validate_inferred_eq_nil_iff hall role).2
    intro c hc s hs
    obtain rfl := List.mem_singleton.1 hc
    exact (isCompatible_iff_of_infer hs).2 not_refusesOwnType_columnOf
  · obtain ⟨k, hreads, hk⟩ := Column.exists_reads_of_infer h
    have hshape := hreads.hasShape_iff.2 (hk.2 not_misreads_columnOf)
    intro ordinal cur v hv hnull
    exact (hshape name ordinal cur v hv).resolve_left fun hmissing => hnull hmissing.1
  · intro w hw
    by_cases hboolean : Text.upper typeName = "BOOLEAN"
    · have hcode : (columnOf name typeName nullable).code.standard? = some .tinyInt := by
        rw [columnOf_of_boolean hboolean]
        rfl
      have hs : t.shape = .boolean := by
        apply shape_of_type? h
        rw [columnOf_of_boolean hboolean, type?, isUnsigned, isUnsignedName_tinyInt]
        rfl
      rw [baseName_of_boolean hboolean] at hw
      cases hw
      rw [hs, isUnsignedName_of_boolean hboolean]
      apply readsBack_flag hcode
      intro n hn
      have hrange : -2 ^ 7 ≤ n ∧ n < 2 ^ 7 := hn
      omega
    · have hwhole : IsWhole (columnOf name typeName nullable) w (isUnsignedName typeName) :=
        isWhole_columnOf hboolean hw
      rw [hwhole.shape_eq h]
      exact hwhole.readsBack

theorem columnOf_consistent_port :
    (columnOf "PORT" "smallint unsigned" true).infer .mysql = .ok ⟨.int, true⟩ ∧
      Schema.validate .mysql .sink [⟨"PORT", ⟨.int, true⟩⟩]
        [columnOf "PORT" "smallint unsigned" true] = [] ∧
      WholeType.ofBaseName? (baseName "smallint unsigned") = some .smallInt ∧
      WholeType.smallInt.Holds (isUnsignedName "smallint unsigned") 65535 ∧
      (columnOf "PORT" "smallint unsigned" true).ReadsBack .mysql .int
        (WholeType.smallInt.Holds (isUnsignedName "smallint unsigned")) := by
  have hinfer : (columnOf "PORT" "smallint unsigned" true).infer .mysql = .ok ⟨.int, true⟩ := by
    rfl
  have hname : isUnsignedName "smallint unsigned" = true := by decide
  have hbase : WholeType.ofBaseName? (baseName "smallint unsigned") = some .smallInt := by decide
  obtain ⟨hvalid, -, hback⟩ := columnOf_consistent hinfer
  refine ⟨hinfer, hvalid .sink, hbase, ?_, hback .smallInt hbase⟩
  rw [hname]
  exact ⟨by decide, by decide⟩

/-- A float that is a zero with a sign is read as a decimal that is one, and refused as negative. -/
theorem columnOf_refuses_signed_zero :
    (columnOf "N" "bigint unsigned" true).infer .mysql = .ok ⟨.decimal 20 0, true⟩ ∧
      WholeType.ofBaseName? (baseName "bigint unsigned") = some .bigInt ∧
      WholeType.bigInt.Holds (isUnsignedName "bigint unsigned") 0 ∧
      ∃ d : Decimal, d.IsNumber 0 ∧
        Field.read .mysql ⟨"N", ⟨.decimal 20 0, true⟩⟩ (.single [] [.f64 ⟨0x8000000000000000⟩])
          ((columnOf "N" "bigint unsigned" true).columnType 1) = .ok (.decimal d) ∧
        (Field.write .mysql ⟨"N", ⟨.decimal 20 0, true⟩⟩
          ((columnOf "N" "bigint unsigned" true).columnType 1) (.decimal d)).runOn ({} : Statement) =
          (.error (.conversion "N" (.notUnsignedBigInt d)), {}) := by
  have hname : isUnsignedName "bigint unsigned" = true := by decide
  refine ⟨rfl, by decide, ?_, .ofNat true 0 (by decide), rfl, rfl, rfl⟩
  rw [hname]
  exact ⟨by decide, by decide⟩

end MySql

end TableTransfer
