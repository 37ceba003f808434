import Mathlib.Data.Int.ConditionallyCompleteOrder
import Mathlib.Order.Interval.Set.Defs
import TableTransfer.Proofs.Field.Numeric
import TableTransfer.Proofs.Field.Outcome
import TableTransfer.Proofs.Field.Unsigned

namespace TableTransfer

/-- The number is a word of so many bits, with a sign or without. -/
def IsOfWidth (width : Nat) (n : Int) : Prop :=
  -2 ^ (width - 1) ≤ n ∧ n < 2 ^ (width - 1) ∨ 0 ≤ n ∧ n < 2 ^ width

namespace Family

/-- The words of 32 bits that a column of the family takes by the general rule. -/
def intRange : Family → Set Int
  | tinyInt => Set.Icc (-128) 127
  | smallInt => Set.Icc (-32768) 32767
  | integer | bigInt => Set.univ
  | _ => ∅

def longRange : Family → Set Int
  | integer | bigInt => Set.univ
  | _ => ∅

def Takes {α : Type} (family : Family) (make : α → Value) (number : α → Int) (range : Set Int) :
    Prop :=
  ∀ (f : Field) (c : ColumnType) (a : α),
    (number a ∈ range → ∃ p, family.write f c (make a) = .ok p ∧ p.IsNumber (number a)) ∧
    (number a ∉ range → ∃ fault, family.write f c (make a) = .error (.conversion f.name fault))

end Family

namespace MySql

def checkedRange (c : Column) (general : Set Int) : Set Int :=
  ((unsignedMax? (c.columnType 0)).map (Set.Icc 0)).getD general

def intRange (c : Column) (family : Family) : Set Int :=
  if isYear c.typeName then Set.univ else checkedRange c family.intRange

end MySql

namespace Vendor

def intRange (v : Vendor) (c : Column) (family : Family) : Set Int :=
  match v with
  | mysql => MySql.intRange c family
  | sqlServer => if family = .tinyInt then Set.Icc 0 255 else family.intRange
  | generic | postgres | oracle | db2 => family.intRange

def longRange (v : Vendor) (c : Column) (family : Family) : Set Int :=
  match v with
  | mysql => MySql.checkedRange c family.longRange
  | generic | postgres | oracle | sqlServer | db2 => family.longRange

end Vendor

namespace Column

/-- The words of the range are bound as the numbers that they are, and all others are refused. -/
def Takes {α : Type} (vendor : Vendor) (c : Column) (make : α → Value) (number : α → Int)
    (range : Set Int) : Prop :=
  ∀ (f : Field) (i : Nat) (a : α),
    (number a ∈ range →
      ∃ p, f.Binds vendor (c.columnType (i + 1)) (make a) p ∧ p.IsNumber (number a)) ∧
    (number a ∉ range → f.Rejects vendor (c.columnType (i + 1)) (make a))

namespace Takes

variable {α : Type} {vendor : Vendor} {c : Column} {make : α → Value} {number : α → Int}
  {range : Set Int}

theorem bindsOnly_iff (h : c.Takes vendor make number range) (f : Field) (i : Nat) (a : α)
    (P : Int → Prop) :
    f.BindsOnly vendor (c.columnType (i + 1)) (make a) P ↔
      (number a ∈ range → P (number a)) := by
  by_cases ha : number a ∈ range
  · obtain ⟨p, hp, hnumber⟩ := (h f i a).1 ha
    rw [hp.bindsOnly_iff hnumber, imp_iff_right ha]
  · exact iff_of_true (.inr ((h f i a).2 ha)) fun hmem => absurd hmem ha

variable (hnull : ∀ a, (make a).isNull = false)
include hnull

theorem of_answered
    (h : ∀ name ordinal a,
      (number a ∈ range →
        ∃ p, (vendor.write? name (c.columnType ordinal) (make a) :
          Option (ParamM Statement Unit)) = some ((c.columnType ordinal).bind p) ∧
            p.IsNumber (number a)) ∧
      (number a ∉ range →
        ∃ fault, (vendor.write? name (c.columnType ordinal) (make a) :
          Option (ParamM Statement Unit)) = some (throw (.conversion name fault)))) :
    c.Takes vendor make number range := by
  intro f i a
  obtain ⟨hbound, hrefused⟩ := h f.name (i + 1) a
  constructor
  · intro ha
    obtain ⟨p, hp, hnumber⟩ := hbound ha
    exact ⟨p, Field.binds_of_answered (Nat.succ_ne_zero i) (hnull a) hp, hnumber⟩
  · intro ha
    obtain ⟨fault, hfault⟩ := hrefused ha
    exact Field.rejects_of_answered (hnull a) hfault

theorem of_family {family : Family} (hfamily : c.code.family? = some family)
    (hnone : ∀ name ordinal a, (vendor.write? name (c.columnType ordinal) (make a) :
      Option (ParamM Statement Unit)) = none)
    (h : family.Takes make number range) : c.Takes vendor make number range := by
  intro f i a
  obtain ⟨hbound, hrefused⟩ := h f (c.columnType (i + 1)) a
  constructor
  · intro ha
    obtain ⟨p, hp, hnumber⟩ := hbound ha
    exact ⟨p, Field.binds_of_family (Nat.succ_ne_zero i) hfamily (hnull a) (hnone ..) hp, hnumber⟩
  · intro ha
    obtain ⟨fault, hfault⟩ := hrefused ha
    exact Field.rejects_of_family hfamily (hnull a) (hnone ..) hfault

end Takes

end Column

namespace Family

variable {family : Family} {width : Nat}

theorem writeSmall_cases (f : Field) (c : ColumnType) (n : Int32) {low high : Int}
    (hlow : -32768 ≤ low) (hhigh : high ≤ 32767) :
    (n.toInt ∈ Set.Icc low high →
      ∃ p, writeSmall f c n low high = .ok p ∧ p.IsNumber n.toInt) ∧
    (n.toInt ∉ Set.Icc low high →
      ∃ fault, writeSmall f c n low high = .error (.conversion f.name fault)) := by
  constructor
  · intro hn
    exact ⟨_, writeSmall_eq hn, .ofInt16 ⟨hlow.trans hn.1, Int.lt_add_one_of_le (hn.2.trans hhigh)⟩⟩
  · intro hn
    exact ⟨_, if_neg hn⟩

theorem takes_ints (hwidth : family.width? = some width) :
    family.Takes .int Int32.toInt family.intRange := by
  intro f c n
  cases family with
  | tinyInt | smallInt => exact writeSmall_cases f c n (by decide) (by decide)
  | integer => exact ⟨fun _ => ⟨_, rfl, .i32 n⟩, fun hn => absurd trivial hn⟩
  | bigInt =>
      have hnumber := SqlValue.IsNumber.i64 n.toInt64
      rw [n.toInt_toInt64] at hnumber
      exact ⟨fun _ => ⟨_, rfl, hnumber⟩, fun hn => absurd trivial hn⟩
  | boolean | real | float | double | numeric | text | binary | date | time | timestamp
  | zonedTimestamp => cases hwidth

theorem takes_longs (hwidth : family.width? = some width) :
    family.Takes .long Int64.toInt family.longRange := by
  intro f c n
  cases family with
  | tinyInt | smallInt => exact ⟨fun hn => absurd hn (Set.notMem_empty _), fun _ => ⟨_, rfl⟩⟩
  | integer | bigInt => exact ⟨fun _ => ⟨_, rfl, .i64 n⟩, fun hn => absurd trivial hn⟩
  | boolean | real | float | double | numeric | text | binary | date | time | timestamp
  | zonedTimestamp => cases hwidth

end Family

namespace MySql

variable {c : Column} {family : Family} {width : Nat}

theorem unsignedMax?_columnType (ordinal : Nat) :
    unsignedMax? (c.columnType ordinal) = unsignedMax? (c.columnType 0) := rfl

theorem checkedRange_of_max {general : Set Int} {max : Int}
    (h : unsignedMax? (c.columnType 0) = some max) : checkedRange c general = Set.Icc 0 max := by
  simp only [checkedRange, h, Option.map_some, Option.getD_some]

theorem checkedRange_of_none {general : Set Int} (h : unsignedMax? (c.columnType 0) = none) :
    checkedRange c general = general := by
  simp only [checkedRange, h, Option.map_none, Option.getD_none]

theorem checkedRange_of_unnamed {general : Set Int} (hname : isUnsignedName c.typeName = false) :
    checkedRange c general = general :=
  checkedRange_of_none (unsignedMax?_of_unnamed (c := c.columnType 0) hname)

section

variable {α : Type} {make : α → Value} {number : α → Int} {param : α → SqlValue}

theorem takes_of_checked {general : Set Int} (hfamily : c.code.family? = some family)
    (hnull : ∀ a, (make a).isNull = false) (hnumber : ∀ a, (param a).IsNumber (number a))
    (hwrite : ∀ name ordinal a, (Vendor.mysql.write? name (c.columnType ordinal) (make a) :
      Option (ParamM Statement Unit)) =
        (unsignedMax? (c.columnType ordinal)).map fun max => do
          checkUnsigned name (c.columnType ordinal) (number a) max
          (c.columnType ordinal).bind (param a))
    (hgeneral : family.Takes make number general) :
    c.Takes .mysql make number (checkedRange c general) := by
  cases hmax : unsignedMax? (c.columnType 0) with
  | none =>
      rw [checkedRange_of_none hmax]
      apply Column.Takes.of_family hnull hfamily _ hgeneral
      intro name ordinal a
      rw [hwrite, unsignedMax?_columnType, hmax, Option.map_none]
  | some max =>
      rw [checkedRange_of_max hmax]
      apply Column.Takes.of_answered hnull
      intro name ordinal a
      rw [hwrite, unsignedMax?_columnType, hmax, Option.map_some]
      constructor
      · intro ha
        refine ⟨param a, ?_, hnumber a⟩
        rw [checkUnsigned_eq ha]
        rfl
      · intro ha
        have hfault : checkUnsigned name (c.columnType ordinal) (number a) max =
            .error (.conversion name (.outOfRange (number a) c.typeName c.name)) := if_neg ha
        rw [hfault]
        exact ⟨_, rfl⟩

end

variable (hfamily : c.code.family? = some family) (hwidth : family.width? = some width)
include hfamily hwidth

theorem takes_ints : c.Takes .mysql .int Int32.toInt (intRange c family) := by
  cases hyear : isYear c.typeName with
  | true =>
      rw [intRange, hyear, if_pos rfl]
      apply Column.Takes.of_answered fun _ => rfl
      intro name ordinal n
      exact ⟨fun _ => ⟨.i32 n, if_pos hyear, .i32 n⟩, fun hn => absurd trivial hn⟩
  | false =>
      have hnot : ¬isYear c.typeName = true := Bool.not_eq_true _ ▸ hyear
      rw [intRange, if_neg hnot]
      apply takes_of_checked hfamily (fun _ => rfl) .i32 _ (Family.takes_ints hwidth)
      intro name ordinal n
      exact if_neg hnot

theorem takes_longs : c.Takes .mysql .long Int64.toInt (checkedRange c family.longRange) := by
  apply takes_of_checked hfamily (fun _ => rfl) .i64 _ (Family.takes_longs hwidth)
  intro name ordinal n
  rw [Vendor.write?, write?]

end MySql

namespace Vendor

variable {vendor : Vendor} {c : Column} {family : Family} {width : Nat}

theorem intRange_of_year (h : vendor.readsYears c = true) :
    vendor.intRange c family = Set.univ := by
  cases vendor with
  | generic | postgres | oracle | sqlServer | db2 => cases h
  | mysql => exact if_pos h

theorem longRange_of_ne_mysql (h : vendor ≠ .mysql) :
    vendor.longRange c family = family.longRange := by
  cases vendor with
  | generic | postgres | oracle | sqlServer | db2 => rfl
  | mysql => exact absurd rfl h

theorem longRange_of_unchecked (h : ¬(vendor = .mysql ∧ MySql.isUnsignedName c.typeName = true)) :
    vendor.longRange c family = family.longRange := by
  by_cases hvendor : vendor = .mysql
  · subst hvendor
    rw [not_and, Bool.not_eq_true] at h
    exact MySql.checkedRange_of_unnamed (h rfl)
  · exact longRange_of_ne_mysql hvendor

variable (hfamily : c.code.family? = some family) (hwidth : family.width? = some width)
include hfamily hwidth

theorem takes_ints : c.Takes vendor .int Int32.toInt (vendor.intRange c family) := by
  have hgeneral (hvendor : vendor ≠ .mysql) (hsmall : vendor = .sqlServer → family ≠ .tinyInt) :
      c.Takes vendor .int Int32.toInt family.intRange :=
    .of_family (fun _ => rfl) hfamily (write?_int hvendor hfamily hsmall) (Family.takes_ints hwidth)
  cases vendor with
  | generic | postgres | oracle | db2 => exact hgeneral (by decide) (fun h => by cases h)
  | mysql => exact MySql.takes_ints hfamily hwidth
  | sqlServer =>
      by_cases htiny : family = .tinyInt
      · subst htiny
        have hcode : c.code.is .tinyInt = true :=
          TypeCode.is_iff.2 (TypeCode.standard?_of_width? hfamily rfl)
        apply Column.Takes.of_answered fun _ => rfl
        intro name ordinal n
        constructor
        · intro hn
          refine ⟨_, (if_pos hcode).trans (if_pos hn), .ofInt16 ?_⟩
          exact ⟨le_trans (by decide) hn.1, lt_of_le_of_lt hn.2 (by decide)⟩
        · intro hn
          exact ⟨_, (if_pos hcode).trans (if_neg hn)⟩
      · rw [intRange, if_neg htiny]
        exact hgeneral (by decide) fun _ => htiny

theorem takes_longs : c.Takes vendor .long Int64.toInt (vendor.longRange c family) := by
  by_cases hvendor : vendor = .mysql
  · subst hvendor
    exact MySql.takes_longs hfamily hwidth
  · rw [longRange_of_ne_mysql hvendor]
    exact .of_family (fun _ => rfl) hfamily (write?_long hvendor hfamily)
      (Family.takes_longs hwidth)

end Vendor

theorem Family.isOfWidth_of_mem_intRange {family : Family} {width : Nat} {n : Int32}
    (hwidth : family.width? = some width) (hn : n.toInt ∈ family.intRange) :
    IsOfWidth width n.toInt := by
  have hlow := n.le_toInt
  have hhigh := n.toInt_lt
  cases family with
  | tinyInt | smallInt =>
      cases hwidth
      obtain ⟨hmin, hmax⟩ := hn
      simp only [IsOfWidth]
      omega
  | integer | bigInt =>
      cases hwidth
      simp only [IsOfWidth]
      omega
  | boolean | real | float | double | numeric | text | binary | date | time | timestamp
  | zonedTimestamp => cases hwidth

/-- By the general rule only columns of 32 bits take words that are too long for them. -/
theorem Family.isOfWidth_of_mem_longRange {family : Family} {width : Nat} {n : Int64}
    (hwidth : family.width? = some width) (hfamily : family ≠ .integer)
    (hn : n.toInt ∈ family.longRange) : IsOfWidth width n.toInt := by
  have hlow := n.le_toInt
  have hhigh := n.toInt_lt
  cases family with
  | tinyInt | smallInt => exact absurd hn (Set.notMem_empty _)
  | integer => exact absurd rfl hfamily
  | bigInt =>
      cases hwidth
      simp only [IsOfWidth]
      omega
  | boolean | real | float | double | numeric | text | binary | date | time | timestamp
  | zonedTimestamp => cases hwidth

namespace MySql

variable {c : Column} {family : Family} {width : Nat} {general : Set Int} {n : Int}

def unsignedWidth (c : Column) (width : Nat) : Nat :=
  if c.code.is .integer && isMediumInt c.typeName then 24 else width

theorem unsignedMax?_eq (hfamily : c.code.family? = some family)
    (hwidth : family.width? = some width) (hname : isUnsignedName c.typeName = true) :
    unsignedMax? (c.columnType 0) =
      if family = .bigInt then none else some (2 ^ unsignedWidth c width - 1) := by
  have hcode := TypeCode.standard?_of_width? hfamily hwidth
  rw [unsignedWidth, TypeCode.is_eq_decide, hcode]
  cases family with
  | tinyInt | smallInt | bigInt =>
      cases hwidth
      exact unsignedMax?_of_named (c := c.columnType 0) hname hcode
  | integer =>
      cases hwidth
      have hmax := unsignedMax?_of_named (c := c.columnType 0) hname hcode
      rw [hmax]
      change namedMax? (isMediumInt c.typeName) _ = _
      cases isMediumInt c.typeName <;> rfl
  | boolean | real | float | double | numeric | text | binary | date | time | timestamp
  | zonedTimestamp => cases hwidth

theorem checkedRange_of_named (hfamily : c.code.family? = some family)
    (hwidth : family.width? = some width) (hname : isUnsignedName c.typeName = true) :
    checkedRange c general =
      if family = .bigInt then general else Set.Icc 0 (2 ^ unsignedWidth c width - 1) := by
  have hmax := unsignedMax?_eq hfamily hwidth hname
  split
  · rename_i hbig
    exact checkedRange_of_none (hmax.trans (if_pos hbig))
  · rename_i hbig
    exact checkedRange_of_max (hmax.trans (if_neg hbig))

theorem unsignedWidth_le (hfamily : c.code.family? = some family)
    (hwidth : family.width? = some width) : unsignedWidth c width ≤ width := by
  rw [unsignedWidth]
  split
  · rename_i hmedium
    have hcode := TypeCode.standard?_of_width? hfamily hwidth
    rw [Bool.and_eq_true, TypeCode.is_iff, hcode] at hmedium
    cases family <;> cases hwidth <;> simp [Family.wholeType?] at hmedium ⊢
  · exact le_rfl

theorem isOfWidth_of_mem_checkedRange (hfamily : c.code.family? = some family)
    (hwidth : family.width? = some width)
    (hgeneral : n ∈ general → isUnsignedName c.typeName = false ∨ family = .bigInt →
      IsOfWidth width n)
    (hn : n ∈ checkedRange c general) : IsOfWidth width n := by
  cases hname : isUnsignedName c.typeName with
  | false =>
      rw [checkedRange_of_unnamed hname] at hn
      exact hgeneral hn (.inl hname)
  | true =>
      rw [checkedRange_of_named hfamily hwidth hname] at hn
      split at hn
      · rename_i hbig
        exact hgeneral hn (.inr hbig)
      · obtain ⟨hmin, hmax⟩ := hn
        have hpower : (2 : Int) ^ unsignedWidth c width ≤ 2 ^ width :=
          pow_le_pow_right₀ (by decide) (unsignedWidth_le hfamily hwidth)
        exact .inr ⟨hmin, by omega⟩

end MySql

namespace Vendor

variable {vendor : Vendor} {c : Column} {family : Family} {width : Nat}

theorem isOfWidth_of_mem_intRange (hfamily : c.code.family? = some family)
    (hwidth : family.width? = some width) (hyear : vendor.readsYears c = false) {n : Int32}
    (hn : n.toInt ∈ vendor.intRange c family) : IsOfWidth width n.toInt := by
  cases vendor with
  | generic | postgres | oracle | db2 => exact Family.isOfWidth_of_mem_intRange hwidth hn
  | sqlServer =>
      simp only [intRange] at hn
      split at hn
      · rename_i htiny
        subst htiny
        cases hwidth
        exact .inr ⟨hn.1, Int.lt_add_one_of_le hn.2⟩
      · exact Family.isOfWidth_of_mem_intRange hwidth hn
  | mysql =>
      have hnot : ¬MySql.isYear c.typeName = true := Bool.not_eq_true _ ▸ hyear
      rw [intRange, MySql.intRange, if_neg hnot] at hn
      apply MySql.isOfWidth_of_mem_checkedRange hfamily hwidth _ hn
      exact fun hn _ => Family.isOfWidth_of_mem_intRange hwidth hn

theorem isOfWidth_of_mem_longRange (hfamily : c.code.family? = some family)
    (hwidth : family.width? = some width)
    (hkind : family ≠ .integer ∨ vendor = .mysql ∧ MySql.isUnsignedName c.typeName = true)
    {n : Int64} (hn : n.toInt ∈ vendor.longRange c family) : IsOfWidth width n.toInt := by
  by_cases hvendor : vendor = .mysql
  · subst hvendor
    apply MySql.isOfWidth_of_mem_checkedRange hfamily hwidth _ hn
    rintro hn (hname | rfl)
    · have hwide : family ≠ .integer := hkind.resolve_right fun h => by
        cases hname.symm.trans h.2
      exact Family.isOfWidth_of_mem_longRange hwidth hwide hn
    · exact Family.isOfWidth_of_mem_longRange hwidth (by decide) hn
  · have hwide : family ≠ .integer := hkind.resolve_right fun h => hvendor h.1
    rw [longRange_of_ne_mysql hvendor] at hn
    exact Family.isOfWidth_of_mem_longRange hwidth hwide hn

end Vendor

namespace Column

variable {vendor : Vendor} {c : Column} {family : Family} {width : Nat}

/-- The words that are written to a column of whole numbers are of its width, and the others are
faults of the field, except for two kinds of columns: MySQL takes every word of 32 bits as a year,
and no dialect checks the words of 64 bits for columns of 32 bits, unless MySQL has the column
unsigned by its name. -/
theorem bindsOnly_isOfWidth_iff (hfamily : c.code.family? = some family)
    (hwidth : family.width? = some width) (f : Field) (i : Nat) :
    (∀ n : Int32, f.BindsOnly vendor (c.columnType (i + 1)) (.int n) (IsOfWidth width) ↔
      (vendor.readsYears c = true → IsOfWidth width n.toInt)) ∧
    (∀ n : Int64, f.BindsOnly vendor (c.columnType (i + 1)) (.long n) (IsOfWidth width) ↔
      (family = .integer ∧ ¬(vendor = .mysql ∧ MySql.isUnsignedName c.typeName = true) →
        IsOfWidth width n.toInt)) := by
  constructor
  · intro n
    rw [(Vendor.takes_ints hfamily hwidth).bindsOnly_iff]
    cases hyear : vendor.readsYears c with
    | true =>
        have hmem : n.toInt ∈ vendor.intRange c family := by
          rw [Vendor.intRange_of_year hyear]
          exact trivial
        rw [imp_iff_right hmem, imp_iff_right rfl]
    | false =>
        apply iff_of_true (Vendor.isOfWidth_of_mem_intRange hfamily hwidth hyear)
        exact fun h => absurd h Bool.false_ne_true
  · intro n
    rw [(Vendor.takes_longs hfamily hwidth).bindsOnly_iff]
    by_cases hkind : family = .integer ∧
        ¬(vendor = .mysql ∧ MySql.isUnsignedName c.typeName = true)
    · have hmem : n.toInt ∈ vendor.longRange c family := by
        rw [Vendor.longRange_of_unchecked hkind.2, hkind.1]
        exact trivial
      rw [imp_iff_right hmem, imp_iff_right hkind]
    · have hkept : family ≠ .integer ∨
          vendor = .mysql ∧ MySql.isUnsignedName c.typeName = true := by
        rwa [not_and_or, not_not] at hkind
      apply iff_of_true (Vendor.isOfWidth_of_mem_longRange hfamily hwidth hkept)
      exact fun h => absurd h hkind

theorem bindsOnly_isOfWidth_smallInt :
    StandardType.smallInt.code.family? = some .smallInt ∧ Family.smallInt.width? = some 16 ∧
      ∀ n : Int32, Field.BindsOnly .generic ⟨"PORT", ⟨.int, true⟩⟩
        (columnType { name := "PORT", code := StandardType.smallInt.code, typeName := "SMALLINT" }
          1) (.int n) (IsOfWidth 16) :=
  ⟨rfl, rfl, fun n => ((@bindsOnly_isOfWidth_iff .generic
    { name := "PORT", code := StandardType.smallInt.code, typeName := "SMALLINT" } _ _
    rfl rfl ⟨"PORT", ⟨.int, true⟩⟩ 0).1 n).2 fun hyear => absurd hyear Bool.false_ne_true⟩

theorem integer_takes_wide_word :
    (Field.write .generic ⟨"N", ⟨.long, true⟩⟩
        (columnType { name := "N", code := StandardType.integer.code, typeName := "INTEGER" } 1)
        (.long 4294967296)).runOn ({} : Statement) =
      (.ok (), { params := [⟨1, .i64 4294967296⟩] }) ∧
    ¬IsOfWidth 32 4294967296 := by
  refine ⟨rfl, ?_⟩
  simp only [IsOfWidth]
  omega

end Column

end TableTransfer
