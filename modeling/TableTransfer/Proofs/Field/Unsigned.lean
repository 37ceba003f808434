import TableTransfer.Proofs.Field.Inferred
import TableTransfer.Proofs.Field.Whole

namespace TableTransfer

def Shape.isWhole : Shape → Bool
  | .int | .long | .decimal .. => true
  | _ => false

namespace Family

def width? : Family → Option Nat
  | tinyInt => some 8
  | smallInt => some 16
  | integer => some 32
  | bigInt => some 64
  | _ => none

def wholeType? : Family → Option StandardType
  | tinyInt => some .tinyInt
  | smallInt => some .smallInt
  | integer => some .integer
  | bigInt => some .bigInt
  | _ => none

/-- As many bits as a parameter has by the general rule, without that of the sign. Only the
columns of 32 bits have a wider parameter. -/
def keptBits : Family → Nat
  | tinyInt => 7
  | smallInt => 15
  | integer => 32
  | bigInt => 63
  | _ => 0

end Family

def MySql.keptBits (c : Column) (family : Family) : Nat :=
  if isYear c.typeName then min (family.width?.getD 0) 31
  else if isUnsignedName c.typeName then
    if c.code.is .integer && isMediumInt c.typeName then 24 else family.width?.getD 0
  else if c.code.is .integer && isMediumInt c.typeName then 31
  else family.keptBits

/-- A column that is reported as unsigned keeps the numbers of so many bits. -/
def Vendor.keptBits (v : Vendor) (c : Column) (family : Family) : Nat :=
  match v with
  | mysql => MySql.keptBits c family
  | sqlServer => if family = .tinyInt then 8 else family.keptBits
  | generic | postgres | oracle | db2 => family.keptBits

namespace Vendor

variable {vendor : Vendor} {c : Column} {s : Shape} {family : Family}

theorem not_isWhole_of_type? (hvendor : vendor ≠ .mysql) (h : vendor.type? c = some s) :
    s.isWhole = false := by
  cases vendor with
  | generic => cases h
  | mysql => exact absurd rfl hvendor
  | postgres =>
      simp only [type?, Postgres.type?] at h
      split at h <;> cases h
      rfl
  | oracle =>
      simp only [type?, Oracle.type?] at h
      repeat' split at h
      all_goals cases h
      all_goals rfl
  | sqlServer =>
      simp only [type?, SqlServer.type?] at h
      repeat' split at h
      all_goals cases h
      all_goals rfl
  | db2 =>
      simp only [type?, Db2.type?] at h
      repeat' split at h
      all_goals cases h
      all_goals rfl

theorem read?_of_isWhole (hvendor : vendor ≠ .mysql) (hfamily : c.code.family? = some family)
    (hs : s = .int ∨ s = .long) (ordinal : Nat) (cur : Cursor) :
    vendor.read? cur s (c.columnType ordinal) = none := by
  cases vendor with
  | generic => rfl
  | mysql => exact absurd rfl hvendor
  | postgres | sqlServer | db2 => rcases hs with rfl | rfl <;> rfl
  | oracle =>
      have hlocal : c.code ≠ Oracle.localTimestamp := TypeCode.ne_of_family? hfamily rfl
      have hfile : c.code ≠ Oracle.externalFile := TypeCode.ne_of_family? hfamily rfl
      rcases hs with rfl | rfl
      all_goals exact (if_neg hlocal).trans (if_neg hfile)

theorem write?_long (hvendor : vendor ≠ .mysql) (hfamily : c.code.family? = some family)
    (name : String) (ordinal : Nat) (n : Int64) :
    (vendor.write? name (c.columnType ordinal) (.long n) : Option (ParamM Statement Unit)) =
      none := by
  cases vendor with
  | generic | postgres | sqlServer | db2 => rfl
  | mysql => exact absurd rfl hvendor
  | oracle =>
      have hfile : c.code ≠ Oracle.externalFile := TypeCode.ne_of_family? hfamily rfl
      exact if_neg hfile

theorem write?_int (hvendor : vendor ≠ .mysql) (hfamily : c.code.family? = some family)
    (hsmall : vendor = .sqlServer → family ≠ .tinyInt) (name : String) (ordinal : Nat)
    (n : Int32) :
    (vendor.write? name (c.columnType ordinal) (.int n) : Option (ParamM Statement Unit)) =
      none := by
  cases vendor with
  | generic | postgres | db2 => rfl
  | mysql => exact absurd rfl hvendor
  | oracle =>
      have hfile : c.code ≠ Oracle.externalFile := TypeCode.ne_of_family? hfamily rfl
      exact if_neg hfile
  | sqlServer =>
      apply if_neg
      intro hcode
      apply hsmall rfl
      have hstandard : c.code.standard? = some .tinyInt := TypeCode.is_iff.1 hcode
      rw [TypeCode.family?, hstandard] at hfamily
      exact (Option.some.inj hfamily).symm

theorem genericShape?_of_infer {t : UniversalType} (hvendor : vendor ≠ .mysql)
    (h : c.infer vendor = .ok t) (hwhole : t.shape.isWhole = true) :
    c.genericShape? = some t.shape := by
  have hs := Column.shape_of_infer h
  cases htype : vendor.type? c with
  | none => rwa [htype, Option.none_or] at hs
  | some own =>
      rw [htype, Option.some_or] at hs
      rw [← Option.some.inj hs, not_isWhole_of_type? hvendor htype] at hwhole
      cases hwhole

theorem keptBits_eq (hvendor : vendor ≠ .mysql)
    (hsmall : vendor = .sqlServer → family ≠ .tinyInt) :
    vendor.keptBits c family = family.keptBits := by
  cases vendor with
  | generic | postgres | oracle | db2 => rfl
  | mysql => exact absurd rfl hvendor
  | sqlServer => exact if_neg (hsmall rfl)

end Vendor

theorem TypeCode.standard?_of_width? {code : TypeCode} {family : Family} {width : Nat}
    (h : code.family? = some family) (hwidth : family.width? = some width) :
    code.standard? = family.wholeType? := by
  obtain ⟨t, ht, hfamily⟩ := Option.bind_eq_some_iff.1 h
  rw [ht]
  cases t <;> cases hfamily <;> first | rfl | cases hwidth

theorem SqlServer.carries_tinyInt {c : Column} (hfamily : c.code.family? = some .tinyInt) :
    c.Carries .sqlServer .int .int 0 255 where
  reads := Column.readsBy_int hfamily (by decide) Physical.noConfusion fun _ _ => rfl
  writes n := by
    have hcode : c.code.is .tinyInt = true :=
      TypeCode.is_iff.2 (TypeCode.standard?_of_width? hfamily rfl)
    constructor
    · intro hn
      refine ⟨_, .of_answered rfl fun name ordinal => ?_, .ofInt16 ?_⟩
      · exact (if_pos hcode).trans (if_pos hn)
      · omega
    · intro hn
      apply Column.Refuses.of_answered rfl
      intro name ordinal
      exact ⟨_, (if_pos hcode).trans (if_neg hn)⟩

namespace Field

variable {vendor : Vendor} {c : Column} {f : Field} {family : Family} {width : Nat} {n : Int}

theorem natAbs_lt_limit (hwidth : family.width? = some width) (h0 : 0 ≤ n) (hn : n < 2 ^ width) :
    n.natAbs < Decimal.limit := by
  have hbits : width ≤ 64 := by
    cases family <;> cases hwidth <;> decide
  have hpower : (2 : Int) ^ width ≤ 2 ^ 64 := pow_le_pow_right₀ (by decide) hbits
  simp only [Decimal.limit]
  omega

theorem keepsNumber_iff_of_ne_mysql (hvendor : vendor ≠ .mysql)
    (hfamily : c.code.family? = some family) (hwidth : family.width? = some width)
    (hsigned : c.signed = false) (hshape : c.genericShape? = some f.type.shape)
    (h0 : 0 ≤ n) (hn : n < 2 ^ width) :
    f.KeepsNumber vendor c n ↔ n < 2 ^ vendor.keptBits c family := by
  have hlimit := natAbs_lt_limit hwidth h0 hn
  have hread {s : Shape} (hs : s = .int ∨ s = .long) := Vendor.read?_of_isWhole hvendor hfamily hs
  rw [Column.genericShape?, hfamily, Option.bind_some] at hshape
  cases family with
  | tinyInt =>
      cases hwidth
      have hs : f.type.shape = .int := (Option.some.inj hshape).symm
      by_cases hserver : vendor = .sqlServer
      · subst hserver
        rw [(SqlServer.carries_tinyInt hfamily).keepsNumber_iff_of_nonneg hs hlimit h0 (by decide)]
        change n ≤ 0x7fffffff ∧ n ≤ 255 ↔ n < 2 ^ 8
        omega
      · have hsmall : vendor = .sqlServer → Family.tinyInt ≠ .tinyInt := fun h => absurd h hserver
        have hcarries := Column.carries_of_small (hread (.inl rfl)) hfamily (by decide)
          Physical.noConfusion (fun _ _ _ => rfl) (by decide)
          (Vendor.write?_int hvendor hfamily hsmall)
        rw [hcarries.keepsNumber_iff_of_nonneg hs hlimit h0 (by decide),
          Vendor.keptBits_eq hvendor hsmall]
        change n ≤ 0x7fffffff ∧ n ≤ 127 ↔ n < 2 ^ 7
        omega
  | smallInt =>
      cases hwidth
      have hs : f.type.shape = .int := (Option.some.inj hshape).symm
      have hsmall : vendor = .sqlServer → Family.smallInt ≠ .tinyInt := fun _ => by decide
      have hcarries := Column.carries_of_small (hread (.inl rfl)) hfamily (by decide)
        Physical.noConfusion (fun _ _ _ => rfl) (by decide)
        (Vendor.write?_int hvendor hfamily hsmall)
      rw [hcarries.keepsNumber_iff_of_nonneg hs hlimit h0 (by decide),
        Vendor.keptBits_eq hvendor hsmall]
      change n ≤ 0x7fffffff ∧ n ≤ 32767 ↔ n < 2 ^ 15
      omega
  | integer =>
      cases hwidth
      have hs : f.type.shape = .long := by
        rw [Family.shape?, hsigned] at hshape
        exact (Option.some.inj hshape).symm
      have hsmall : vendor = .sqlServer → Family.integer ≠ .tinyInt := fun _ => by decide
      have hcarries := Column.carries_of_wide (hread (.inr rfl)) hfamily (.inl ⟨rfl, rfl⟩)
        (Vendor.write?_long hvendor hfamily)
      rw [hcarries.keepsNumber_iff_of_nonneg hs hlimit h0 (by decide),
        Vendor.keptBits_eq hvendor hsmall]
      change n ≤ 0x7fffffffffffffff ∧ n ≤ 0x7fffffffffffffff ↔ n < 2 ^ 32
      omega
  | bigInt =>
      cases hwidth
      have hs : f.type.shape = .long := (Option.some.inj hshape).symm
      have hsmall : vendor = .sqlServer → Family.bigInt ≠ .tinyInt := fun _ => by decide
      have hcarries := Column.carries_of_wide (hread (.inr rfl)) hfamily (.inr rfl)
        (Vendor.write?_long hvendor hfamily)
      rw [hcarries.keepsNumber_iff_of_nonneg hs hlimit h0 (by decide),
        Vendor.keptBits_eq hvendor hsmall]
      change n ≤ 0x7fffffffffffffff ∧ n ≤ 0x7fffffffffffffff ↔ n < 2 ^ 63
      omega
  | boolean | real | float | double | numeric | text | binary | date | time | timestamp
  | zonedTimestamp => cases hwidth

end Field

namespace MySql

variable {c : Column} {code : StandardType}

theorem type?_of_isYear (hbit : c.code.standard? ≠ some .bit) (hunsigned : isUnsigned c = true)
    (hyear : isYear c.typeName = true) : type? c = some .int := by
  have hcode : c.code.is .bit = false := by rwa [← Bool.not_eq_true, TypeCode.is_iff]
  simp [type?, hcode, hunsigned, hyear]

def unsignedShape? (medium : Bool) : StandardType → Option Shape
  | .tinyInt | .smallInt => some .int
  | .integer => some (if medium then .int else .long)
  | .bigInt => some (.decimal 20 0)
  | _ => none

theorem type?_of_unsigned (hcode : c.code.standard? = some code) (hbit : code ≠ .bit)
    (hunsigned : isUnsigned c = true) (hyear : isYear c.typeName = false) :
    type? c = unsignedShape? (isMediumInt c.typeName) code := by
  have his : c.code.is .bit = false := by
    rw [← Bool.not_eq_true, TypeCode.is_iff, hcode]
    exact fun h => hbit (Option.some.inj h)
  rw [type?, hunsigned, hyear, hcode, his, Bool.not_true, Bool.and_false]
  cases code <;> rfl

def namedMax? (medium : Bool) : StandardType → Option Int
  | .tinyInt => some 255
  | .smallInt => some 65535
  | .integer => some (if medium then 16777215 else 4294967295)
  | _ => none

theorem unsignedMax?_of_named {c : ColumnType} (hname : isUnsignedName c.typeName = true)
    (hcode : c.code.standard? = some code) :
    unsignedMax? c = namedMax? (isMediumInt c.typeName) code := by
  rw [unsignedMax?, if_pos hname, hcode]
  cases code <;> rfl

theorem keptBits_of_named {family : Family} (hyear : isYear c.typeName = false)
    (hname : isUnsignedName c.typeName = true) :
    keptBits c family =
      if c.code.is .integer && isMediumInt c.typeName then 24 else family.width?.getD 0 := by
  rw [keptBits, hyear, if_neg Bool.false_ne_true, hname, if_pos rfl]

theorem keptBits_of_unnamed {family : Family} (hyear : isYear c.typeName = false)
    (hname : isUnsignedName c.typeName = false) :
    keptBits c family =
      if c.code.is .integer && isMediumInt c.typeName then 31 else family.keptBits := by
  rw [keptBits, hyear, if_neg Bool.false_ne_true, hname, if_neg Bool.false_ne_true]

theorem read?_of_isWhole (hyear : isYear c.typeName = false) {s : Shape} (hs : s = .int ∨ s = .long)
    (ordinal : Nat) (cur : Cursor) : Vendor.mysql.read? cur s (c.columnType ordinal) = none := by
  rcases hs with rfl | rfl
  all_goals exact year?_of_not_isYear hyear

variable {f : Field} {family : Family} {width : Nat} {n : Int}

theorem keepsNumber_iff_of_isYear (hwidth : family.width? = some width)
    (hshape : f.type.shape = .int) (hyear : isYear c.typeName = true) (h0 : 0 ≤ n)
    (hn : n < 2 ^ width) : f.KeepsNumber .mysql c n ↔ n < 2 ^ keptBits c family := by
  have hlimit := Field.natAbs_lt_limit hwidth h0 hn
  have hcarries := carries_of_year (s := .int) (fun h => nomatch h) hyear
  have hbits : keptBits c family = min width 31 := by
    rw [keptBits, hyear, if_pos rfl, hwidth, Option.getD_some]
  rw [hcarries.keepsNumber_iff_of_nonneg hshape hlimit h0 (by decide), hbits]
  cases family with
  | tinyInt =>
      cases hwidth
      change n ≤ 0x7fffffff ∧ n ≤ 0x7fffffff ↔ n < 2 ^ 8
      omega
  | smallInt =>
      cases hwidth
      change n ≤ 0x7fffffff ∧ n ≤ 0x7fffffff ↔ n < 2 ^ 16
      omega
  | integer | bigInt =>
      cases hwidth
      change n ≤ 0x7fffffff ∧ n ≤ 0x7fffffff ↔ n < 2 ^ 31
      omega
  | boolean | real | float | double | numeric | text | binary | date | time | timestamp
  | zonedTimestamp => cases hwidth

/-- Columns that are unsigned by their name are checked in their own width. -/
theorem keepsNumber_iff_of_named (hfamily : c.code.family? = some family)
    (hwidth : family.width? = some width) (htype : type? c = some f.type.shape)
    (hname : isUnsignedName c.typeName = true) (hyear : isYear c.typeName = false)
    (h0 : 0 ≤ n) (hn : n < 2 ^ width) :
    f.KeepsNumber .mysql c n ↔ n < 2 ^ keptBits c family := by
  have hlimit := Field.natAbs_lt_limit hwidth h0 hn
  have hcode := TypeCode.standard?_of_width? hfamily hwidth
  have hunsigned : isUnsigned c = true := by rw [isUnsigned, hname, Bool.or_true]
  have hmax {code : StandardType} (hcode : c.code.standard? = some code) (ordinal : Nat) :
      unsignedMax? (c.columnType ordinal) = namedMax? (isMediumInt c.typeName) code :=
    unsignedMax?_of_named (c := c.columnType ordinal) hname hcode
  rw [keptBits_of_named hyear hname, TypeCode.is_eq_decide, hcode]
  cases family with
  | tinyInt | smallInt =>
      cases hwidth
      rw [type?_of_unsigned hcode (by decide) hunsigned hyear] at htype
      have hreads := Column.readsBy_int hfamily (by decide) Physical.noConfusion
        (read?_of_isWhole hyear (.inl rfl))
      have hcarries := carries_of_named hyear .int _ hreads (hmax hcode)
      rw [hcarries.keepsNumber_iff_of_nonneg (Option.some.inj htype).symm hlimit h0 (by decide),
        Family.wholeType?, Family.width?]
      simp only [Word.greatest, Option.some.injEq, reduceCtorEq, decide_false, Bool.false_and,
        Option.getD_some, Bool.false_eq_true, if_false]
      omega
  | integer =>
      cases hwidth
      rw [type?_of_unsigned hcode (by decide) hunsigned hyear] at htype
      replace hmax := hmax hcode
      cases hmedium : isMediumInt c.typeName with
      | true =>
          rw [hmedium] at htype hmax
          have hreads := Column.readsBy_int hfamily (by decide) Physical.noConfusion
            (read?_of_isWhole hyear (.inl rfl))
          have hcarries := carries_of_named hyear .int 16777215 hreads hmax
          rw [hcarries.keepsNumber_iff_of_nonneg (Option.some.inj htype).symm hlimit h0 (by decide)]
          change n ≤ 0x7fffffff ∧ n ≤ 16777215 ↔ n < 2 ^ 24
          omega
      | false =>
          rw [hmedium] at htype hmax
          have hreads := Column.readsBy_long hfamily (.inl ⟨rfl, rfl⟩)
            (read?_of_isWhole hyear (.inr rfl))
          have hcarries := carries_of_named hyear .long 4294967295 hreads hmax
          rw [hcarries.keepsNumber_iff_of_nonneg (Option.some.inj htype).symm hlimit h0 (by decide)]
          change n ≤ 0x7fffffffffffffff ∧ n ≤ 4294967295 ↔ n < 2 ^ 32
          omega
  | bigInt =>
      cases hwidth
      rw [type?_of_unsigned hcode (by decide) hunsigned hyear] at htype
      have hs : f.type.shape = .decimal 20 0 := (Option.some.inj htype).symm
      exact iff_of_true (keepsNumber_decimal hcode hname hs h0) hn
  | boolean | real | float | double | numeric | text | binary | date | time | timestamp
  | zonedTimestamp => cases hwidth

/-- Columns that are unsigned by their flag only are checked by the general rule. -/
theorem keepsNumber_iff_of_unnamed (hfamily : c.code.family? = some family)
    (hwidth : family.width? = some width) (htype : type? c = some f.type.shape)
    (hsigned : c.signed = false) (hname : isUnsignedName c.typeName = false)
    (hyear : isYear c.typeName = false) (h0 : 0 ≤ n) (hn : n < 2 ^ width) :
    f.KeepsNumber .mysql c n ↔ n < 2 ^ keptBits c family := by
  have hlimit := Field.natAbs_lt_limit hwidth h0 hn
  have hcode := TypeCode.standard?_of_width? hfamily hwidth
  have hunsigned : isUnsigned c = true := by rw [isUnsigned, hsigned, Bool.not_false, Bool.true_or]
  rw [keptBits_of_unnamed hyear hname, TypeCode.is_eq_decide, hcode]
  cases family with
  | tinyInt | smallInt =>
      cases hwidth
      rw [type?_of_unsigned hcode (by decide) hunsigned hyear] at htype
      have hcarries := Column.carries_of_small (read?_of_isWhole hyear (.inl rfl)) hfamily
        (by decide) Physical.noConfusion (fun _ _ _ => rfl) (by decide)
        (write?_word_of_unnamed hyear .int hname)
      rw [hcarries.keepsNumber_iff_of_nonneg (Option.some.inj htype).symm hlimit h0 (by decide),
        Family.wholeType?, Family.keptBits]
      simp only [Word.greatest, Option.some.injEq, reduceCtorEq, decide_false, Bool.false_and,
        Bool.false_eq_true, if_false]
      omega
  | integer =>
      cases hwidth
      rw [type?_of_unsigned hcode (by decide) hunsigned hyear] at htype
      cases hmedium : isMediumInt c.typeName with
      | true =>
          rw [hmedium] at htype
          have hcarries := Column.carries_of_integer (read?_of_isWhole hyear (.inl rfl)) hfamily
            Physical.noConfusion (write?_word_of_unnamed hyear .int hname)
          rw [hcarries.keepsNumber_iff_of_nonneg (Option.some.inj htype).symm hlimit h0 (by decide)]
          change n ≤ 0x7fffffff ∧ n ≤ 0x7fffffff ↔ n < 2 ^ 31
          omega
      | false =>
          rw [hmedium] at htype
          have hcarries := Column.carries_of_wide (read?_of_isWhole hyear (.inr rfl)) hfamily
            (.inl ⟨rfl, rfl⟩) (write?_word_of_unnamed hyear .long hname)
          rw [hcarries.keepsNumber_iff_of_nonneg (Option.some.inj htype).symm hlimit h0 (by decide)]
          change n ≤ 0x7fffffffffffffff ∧ n ≤ 0x7fffffffffffffff ↔ n < 2 ^ 32
          omega
  | bigInt =>
      cases hwidth
      rw [type?_of_unsigned hcode (by decide) hunsigned hyear] at htype
      -- The shape is a decimal, but nothing except the name makes the reader give one.
      have hread (ordinal cur) :
          Vendor.mysql.read? cur (.decimal 20 0) (c.columnType ordinal) = none := by
        apply (read?_decimal cur (c.columnType ordinal) hyear 20 0).trans
        apply if_neg
        change ¬(c.code.is .bigInt && isUnsignedName c.typeName) = true
        rw [hname, Bool.and_false]
        exact Bool.false_ne_true
      have hcarries := Column.carries_of_wide hread hfamily (.inr rfl)
        (write?_word_of_unnamed hyear .long hname)
      rw [hcarries.keepsNumber_iff_of_nonneg (Option.some.inj htype).symm hlimit h0 (by decide)]
      change n ≤ 0x7fffffffffffffff ∧ n ≤ 0x7fffffffffffffff ↔ n < 2 ^ 63
      omega
  | boolean | real | float | double | numeric | text | binary | date | time | timestamp
  | zonedTimestamp => cases hwidth

theorem shape_of_type? {t : UniversalType} {s : Shape} (h : c.infer .mysql = .ok t)
    (htype : type? c = some s) : t.shape = s := by
  have hs : (type? c).or c.genericShape? = some t.shape := Column.shape_of_infer h
  rw [htype, Option.some_or] at hs
  exact (Option.some.inj hs).symm

theorem keepsNumber_iff {t : UniversalType} (hfamily : c.code.family? = some family)
    (hwidth : family.width? = some width) (hsigned : c.signed = false)
    (hinfer : c.infer .mysql = .ok t) (hshape : f.type = t) (h0 : 0 ≤ n) (hn : n < 2 ^ width) :
    f.KeepsNumber .mysql c n ↔ n < 2 ^ keptBits c family := by
  have hcode := TypeCode.standard?_of_width? hfamily hwidth
  have hunsigned : isUnsigned c = true := by rw [isUnsigned, hsigned, Bool.not_false, Bool.true_or]
  have hbit : family.wholeType? ≠ some .bit := by cases family <;> simp [Family.wholeType?]
  obtain ⟨code, hwhole⟩ : ∃ code, family.wholeType? = some code := by
    cases family <;> cases hwidth <;> exact ⟨_, rfl⟩
  cases hyear : isYear c.typeName with
  | true =>
      have htype := type?_of_isYear (hcode ▸ hbit) hunsigned hyear
      have hs : f.type.shape = .int := hshape ▸ shape_of_type? hinfer htype
      exact keepsNumber_iff_of_isYear hwidth hs hyear h0 hn
  | false =>
      have htype := type?_of_unsigned (hcode.trans hwhole) (fun h => hbit (h ▸ hwhole)) hunsigned
        hyear
      obtain ⟨s, hs⟩ : ∃ s, type? c = some s := by
        rw [htype]
        cases family <;> cases hwidth <;> cases hwhole <;> exact ⟨_, rfl⟩
      have hfield : type? c = some f.type.shape := by
        rw [hshape, shape_of_type? hinfer hs]
        exact hs
      cases hname : isUnsignedName c.typeName with
      | true => exact keepsNumber_iff_of_named hfamily hwidth hfield hname hyear h0 hn
      | false => exact keepsNumber_iff_of_unnamed hfamily hwidth hfield hsigned hname hyear h0 hn

end MySql

namespace Column

variable {vendor : Vendor} {c : Column} {t : UniversalType} {family : Family} {width : Nat} {n : Int}

/-- A column that is reported as unsigned, and for which whole numbers are inferred, keeps those
numbers of its width that have so many bits as the dialect's checks leave. -/
theorem keepsNumber_unsigned_iff (hfamily : c.code.family? = some family)
    (hwidth : family.width? = some width) (hsigned : c.signed = false)
    (hinfer : c.infer vendor = .ok t) (hwhole : t.shape.isWhole = true) (name : String)
    (h0 : 0 ≤ n) (hn : n < 2 ^ width) :
    Field.KeepsNumber vendor ⟨name, t⟩ c n ↔ n < 2 ^ vendor.keptBits c family := by
  by_cases hvendor : vendor = .mysql
  · subst hvendor
    exact MySql.keepsNumber_iff hfamily hwidth hsigned hinfer rfl h0 hn
  · have hshape := Vendor.genericShape?_of_infer hvendor hinfer hwhole
    exact Field.keepsNumber_iff_of_ne_mysql hvendor hfamily hwidth hsigned hshape h0 hn

theorem keepsNumber_unsigned_largest :
    StandardType.tinyInt.code.family? = some .tinyInt ∧ Family.tinyInt.width? = some 8 ∧
      infer .sqlServer { name := "AGE", code := StandardType.tinyInt.code, typeName := "tinyint",
                         signed := false } = .ok ⟨.int, true⟩ ∧
      Field.KeepsNumber .sqlServer ⟨"AGE", ⟨.int, true⟩⟩
        { name := "AGE", code := StandardType.tinyInt.code, typeName := "tinyint",
          signed := false } 255 :=
  ⟨rfl, rfl, rfl, (keepsNumber_unsigned_iff rfl rfl rfl rfl rfl "AGE"
    (by decide) (by decide)).2 (by decide)⟩

/-- A small integer that only its flag calls unsigned is read, but not written again. -/
theorem not_keepsNumber_unsigned_by_flag :
    infer .mysql { name := "PORT", code := StandardType.smallInt.code, typeName := "SMALLINT",
                   signed := false } = .ok ⟨.int, true⟩ ∧
      Field.read .mysql ⟨"PORT", ⟨.int, true⟩⟩ (.single [] [.i32 65535])
          (columnType { name := "PORT", code := StandardType.smallInt.code, typeName := "SMALLINT",
                        signed := false } 1) = .ok (.int 65535) ∧
      (Field.write .mysql ⟨"PORT", ⟨.int, true⟩⟩
          (columnType { name := "PORT", code := StandardType.smallInt.code, typeName := "SMALLINT",
                        signed := false } 1) (.int 65535)).runOn ({} : Statement) =
        (.error (.conversion "PORT" (.outOfRange 65535 "SMALLINT" "PORT")), {}) := by
  exact ⟨rfl, rfl, rfl⟩

end Column

end TableTransfer
