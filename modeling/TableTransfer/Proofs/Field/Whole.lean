import TableTransfer.Proofs.Field.Binding
import TableTransfer.Proofs.Field.Getter
import TableTransfer.Proofs.Field.Inferred
import TableTransfer.Proofs.Field.RoundTrip
import TableTransfer.Proofs.Value.Whole

namespace TableTransfer

namespace Cursor

variable {cur : Cursor} {index : Nat} {p : SqlValue} {n : Int}

theorem index_ne_zero (hp : cur.value index = .ok p) : index ≠ 0 := by
  rintro rfl
  simp only [value] at hp
  split at hp <;> cases hp

theorem index_ne_zero_of_read {α : Type} {wanted : String} {convert : SqlValue → Option α}
    {a : Option α} (h : cur.read index wanted convert = .ok a) : index ≠ 0 := by
  cases hp : cur.value index with
  | ok p => exact index_ne_zero hp
  | error e =>
      rw [read_of_error hp] at h
      cases h

end Cursor

theorem Cursor.exists_decimal {cur : Cursor} {index : Nat} {p : SqlValue} {n : Int}
    (hp : cur.value index = .ok p) (hn : p.IsNumber n) :
    ∃ d, cur.decimal index = .ok (some d) ∧ d.IsNumber n ∧ (d.IsSignedZero → p.IsSignedZero) := by
  obtain ⟨d, hd, hnumber, hzero⟩ := hn.asDecimal?
  exact ⟨d, read_of_value hp hn.isNull_eq hd "decimal", hnumber, hzero⟩

inductive Word where
  | int
  | long

namespace Word

@[reducible] def Carrier : Word → Type
  | int => Int32
  | long => Int64

def value : (k : Word) → k.Carrier → Value
  | int => .int
  | long => .long

def number : (k : Word) → k.Carrier → Int
  | int => Int32.toInt
  | long => Int64.toInt

def getter : (k : Word) → Getter k.Carrier
  | int => Cursor.int32
  | long => Cursor.int64

def least : Word → Int
  | int => -0x80000000
  | long => -0x8000000000000000

def greatest : Word → Int
  | int => 0x7fffffff
  | long => 0x7fffffffffffffff

variable {k : Word} {cur : Cursor} {index : Nat} {p : SqlValue} {n : Int}

theorem le_number (a : k.Carrier) : k.least ≤ k.number a ∧ k.number a ≤ k.greatest := by
  cases k with
  | int => exact ⟨Int32.le_toInt a, Int.le_of_lt_add_one (Int32.toInt_lt a)⟩
  | long => exact ⟨Int64.le_toInt a, Int.le_of_lt_add_one (Int64.toInt_lt a)⟩

theorem exists_number_iff : (∃ a, k.number a = n) ↔ k.least ≤ n ∧ n ≤ k.greatest := by
  constructor
  · rintro ⟨a, rfl⟩
    exact le_number a
  · rintro ⟨hlow, hhigh⟩
    have hlt := Int.lt_add_one_of_le hhigh
    cases k with
    | int => exact ⟨Int32.ofInt n, Int32.toInt_ofInt_of_le hlow hlt⟩
    | long => exact ⟨Int64.ofInt n, Int64.toInt_ofInt_of_le hlow hlt⟩

theorem isNumber_value_iff {a : k.Carrier} : (k.value a).IsNumber n ↔ n = k.number a := by
  cases k with
  | int =>
      constructor
      · rintro ⟨⟩
        rfl
      · rintro rfl
        exact .int a
  | long =>
      constructor
      · rintro ⟨⟩
        rfl
      · rintro rfl
        exact .long a

theorem value_ne_null (a : k.Carrier) : k.value a ≠ .null :=
  (isNumber_value_iff.2 rfl).ne_null

theorem not_isSignedZero (a : k.Carrier) : ¬(k.value a).IsSignedZero := by
  cases k <;> rintro ⟨⟩

theorem index_ne_zero {a : Option k.Carrier} (h : k.getter cur index = .ok a) : index ≠ 0 := by
  cases k <;> exact Cursor.index_ne_zero_of_read h

theorem getter_eq (hp : cur.value index = .ok p) {a : k.Carrier} (hn : p.IsNumber (k.number a)) :
    k.getter cur index = .ok (some a) := by
  cases k with
  | int =>
      have hword : p.asInt32? = some a := hn.asInt32?.trans (int32?_eq_some_iff.2 rfl)
      exact Cursor.read_of_value hp hn.isNull_eq hword "i32"
  | long =>
      have hword : p.asInt64? = some a := hn.asInt64?.trans (int64?_eq_some_iff.2 rfl)
      exact Cursor.read_of_value hp hn.isNull_eq hword "i64"

theorem getter_eq_error (hp : cur.value index = .ok p) (hn : p.IsNumber n)
    (h : ∀ a, k.number a ≠ n) : ∃ e, k.getter cur index = .error e := by
  cases k with
  | int =>
      have hword : int32? n = none := Option.eq_none_iff_forall_ne_some.2 fun w hw =>
        h w (int32?_eq_some_iff.1 hw)
      exact ⟨_, Cursor.read_of_unreadable "i32" _ hp hn.isNull_eq (hn.asInt32?.trans hword)⟩
  | long =>
      have hword : int64? n = none := Option.eq_none_iff_forall_ne_some.2 fun w hw =>
        h w (int64?_eq_some_iff.1 hw)
      exact ⟨_, Cursor.read_of_unreadable "i64" _ hp hn.isNull_eq (hn.asInt64?.trans hword)⟩

end Word

/-- Every row that holds the number in the column is read, and what is written for the value that
is read is one parameter, which holds the number again. The exception is a zero with a sign, where it
is read with its sign. -/
def Field.KeepsNumber (vendor : Vendor) (f : Field) (c : Column) (n : Int) : Prop :=
  ∀ (ordinal : Nat) (cur : Cursor) (p : SqlValue), cur.value ordinal = .ok p → p.IsNumber n →
    ∃ v, f.read vendor cur (c.columnType ordinal) = .ok v ∧
      (p.IsSignedZero ∧ v.IsSignedZero ∨
        ∃ q, q.IsNumber n ∧ ∀ statement : Statement,
          (f.write vendor (c.columnType ordinal) v).runOn statement =
            (.ok (), { statement with params := statement.params ++ [⟨ordinal, q⟩] }))

theorem Cursor.exists_number {n : Int} (h : n.natAbs < Decimal.limit) :
    ∃ (cur : Cursor) (p : SqlValue), cur.value 1 = .ok p ∧ p.IsNumber n ∧ ¬p.IsSignedZero := by
  have hnumber : (Decimal.ofNat (n < 0) n.natAbs h).IsNumber n := by
    simp only [Decimal.IsNumber, Decimal.signed, Decimal.ofNat, decide_eq_true_eq]
    change _ = n * 1
    split <;> omega
  refine ⟨.single [] [.decimal (.ofNat (n < 0) n.natAbs h)], _, rfl, .decimal hnumber, ?_⟩
  rintro ⟨⟨hnegative, hzero⟩⟩
  have hlt : n < 0 := of_decide_eq_true hnegative
  have heq : n.natAbs = 0 := hzero
  omega

namespace Column

/-- Fields of the shape write the words between the bounds to the column as the numbers that they
are, and refuse all others. -/
def WritesBetween (vendor : Vendor) (c : Column) (s : Shape) (k : Word) (low high : Int) : Prop :=
  ∀ a, (low ≤ k.number a ∧ k.number a ≤ high →
      ∃ q, c.Writes vendor s (k.value a) q ∧ q.IsNumber (k.number a)) ∧
    (¬(low ≤ k.number a ∧ k.number a ≤ high) → c.Refuses vendor s (k.value a))

/-- A column that fields of the shape read and write in the same words: all of them are read, and
those between the bounds are written. -/
structure Carries (vendor : Vendor) (c : Column) (s : Shape) (k : Word) (low high : Int) : Prop where
  reads : c.ReadsBy vendor s k.value k.getter
  writes : c.WritesBetween vendor s k low high

namespace Carries

variable {vendor : Vendor} {c : Column} {s : Shape} {k : Word} {f : Field} {n low high : Int}

theorem keepsNumber_iff (h : c.Carries vendor s k low high) (hshape : f.type.shape = s)
    (hn : n.natAbs < Decimal.limit) :
    f.KeepsNumber vendor c n ↔ (k.least ≤ n ∧ n ≤ k.greatest) ∧ low ≤ n ∧ n ≤ high := by
  rw [← Word.exists_number_iff]
  constructor
  · intro hkeeps
    obtain ⟨cur, p, hp, hnumber, hplain⟩ := Cursor.exists_number hn
    obtain ⟨v, hv, ⟨hzero, -⟩ | ⟨q, -, hwrite⟩⟩ := hkeeps 1 cur p hp hnumber
    · exact absurd hzero hplain
    by_cases hword : ∃ a, k.number a = n
    · obtain ⟨a, rfl⟩ := hword
      refine ⟨⟨a, rfl⟩, ?_⟩
      by_contra hbeyond
      have hread := h.reads.read_of_given hshape (Word.getter_eq hp hnumber) (Word.value_ne_null a)
      obtain rfl := Except.ok.inj (hv.symm.trans hread)
      obtain ⟨e, he⟩ := ((h.writes a).2 hbeyond).runOn hshape 1 {}
      cases (hwrite {}).symm.trans he
    · obtain ⟨e, he⟩ := Word.getter_eq_error hp hnumber fun a ha => hword ⟨a, ha⟩
      exact absurd hv (h.reads.read_ne_of_refused hshape he v)
  · rintro ⟨⟨a, rfl⟩, hbetween⟩ ordinal cur p hp hnumber
    obtain ⟨q, hq, hwritten⟩ := (h.writes a).1 hbetween
    have hread := h.reads.read_of_given hshape (Word.getter_eq hp hnumber) (Word.value_ne_null a)
    exact ⟨_, hread, .inr ⟨q, hwritten, hq.runOn hshape (Cursor.index_ne_zero hp)⟩⟩

theorem keepsNumber_iff_of_nonneg (h : c.Carries vendor s k low high) (hshape : f.type.shape = s)
    (hn : n.natAbs < Decimal.limit) (h0 : 0 ≤ n) (hlow : low ≤ 0) :
    f.KeepsNumber vendor c n ↔ n ≤ k.greatest ∧ n ≤ high := by
  have hleast : k.least ≤ 0 := by cases k <;> decide
  rw [h.keepsNumber_iff hshape hn, and_iff_right (hleast.trans h0), and_iff_right (hlow.trans h0)]

theorem exists_reads_back (h : c.Carries vendor s k low high) {a : k.Carrier}
    (ha : low ≤ k.number a ∧ k.number a ≤ high) :
    ∃ p, c.Writes vendor s (k.value a) p ∧ ∀ (f : Field) (ordinal : Nat) (cur : Cursor),
      f.type.shape = s → cur.value ordinal = .ok p →
        f.read vendor cur (c.columnType ordinal) = .ok (k.value a) := by
  obtain ⟨p, hp, hnumber⟩ := (h.writes a).1 ha
  refine ⟨p, hp, ?_⟩
  intro f ordinal cur hshape hvalue
  exact h.reads.read_of_given hshape (Word.getter_eq hvalue hnumber) (Word.value_ne_null a)

end Carries

section

variable {vendor : Vendor} {c : Column} {s : Shape} {family : Family}

theorem readsBy_int (hfamily : c.code.family? = some family)
    (hwidth : family ∈ [Family.tinyInt, .smallInt, .integer]) (hs : s.physical ≠ .long)
    (hread : ∀ ordinal cur, vendor.read? cur s (c.columnType ordinal) = none) :
    c.ReadsBy vendor s .int Cursor.int32 := by
  apply ReadsBy.of_family hfamily hread
  rintro f cur index rfl
  simp only [List.mem_cons, List.not_mem_nil, or_false] at hwidth
  rcases hwidth with rfl | rfl | rfl
  all_goals exact if_neg hs

theorem readsBy_long (hfamily : c.code.family? = some family)
    (hwidth : family = .integer ∧ s.physical = .long ∨ family = .bigInt)
    (hread : ∀ ordinal cur, vendor.read? cur s (c.columnType ordinal) = none) :
    c.ReadsBy vendor s .long Cursor.int64 := by
  apply ReadsBy.of_family hfamily hread
  rintro f cur index rfl
  rcases hwidth with ⟨rfl, hs⟩ | rfl
  · exact if_pos hs
  · rfl

theorem writesBetween_of_all {k : Word}
    (h : ∀ a, ∃ q, c.Writes vendor s (k.value a) q ∧ q.IsNumber (k.number a)) :
    c.WritesBetween vendor s k k.least k.greatest :=
  fun a => ⟨fun _ => h a, fun hnot => absurd (Word.le_number a) hnot⟩

variable (hread : ∀ ordinal cur, vendor.read? cur s (c.columnType ordinal) = none)
include hread

theorem carries_of_small {low high : Int} (hfamily : c.code.family? = some family)
    (hwidth : family ∈ [Family.tinyInt, .smallInt]) (hs : s.physical ≠ .long)
    (hwrite : ∀ f col n, family.write f col (.int n) = Family.writeSmall f col n low high)
    (hbounds : -32768 ≤ low ∧ high ≤ 32767)
    (hnone : ∀ name ordinal n, (vendor.write? name (c.columnType ordinal) (.int n) :
      Option (ParamM Statement Unit)) = none) : c.Carries vendor s .int low high where
  reads := by
    apply readsBy_int hfamily _ hs hread
    simp only [List.mem_cons, List.not_mem_nil, or_false] at hwidth ⊢
    exact hwidth.elim .inl fun h => .inr (.inl h)
  writes n := by
    constructor
    · intro hn
      refine ⟨_, .of_family hfamily rfl (fun name ordinal => hnone ..) ?_, .ofInt16 ?_⟩
      · intro f col _
        exact (hwrite f col n).trans (Family.writeSmall_eq hn)
      · omega
    · intro hn
      apply Refuses.of_family hfamily rfl fun name ordinal => hnone ..
      intro f col _
      exact ⟨_, (hwrite f col n).trans (if_neg hn)⟩

theorem carries_of_integer (hfamily : c.code.family? = some .integer)
    (hs : s.physical ≠ .long)
    (hnone : ∀ name ordinal n, (vendor.write? name (c.columnType ordinal) (.int n) :
      Option (ParamM Statement Unit)) = none) :
    c.Carries vendor s .int Word.int.least Word.int.greatest where
  reads := readsBy_int hfamily (by decide) hs hread
  writes := writesBetween_of_all fun n =>
    ⟨.i32 n, .of_family hfamily rfl (fun name ordinal => hnone ..) fun _ _ _ => rfl, .i32 n⟩

theorem carries_of_wide (hfamily : c.code.family? = some family)
    (hwidth : family = .integer ∧ s.physical = .long ∨ family = .bigInt)
    (hnone : ∀ name ordinal n, (vendor.write? name (c.columnType ordinal) (.long n) :
      Option (ParamM Statement Unit)) = none) :
    c.Carries vendor s .long Word.long.least Word.long.greatest where
  reads := readsBy_long hfamily hwidth hread
  writes := writesBetween_of_all fun n => by
    refine ⟨.i64 n, ?_, .i64 n⟩
    rcases hwidth with ⟨rfl, -⟩ | rfl
    all_goals exact .of_family hfamily rfl (fun name ordinal => hnone ..) fun _ _ _ => rfl

end

end Column

namespace MySql

variable {c : Column} {s : Shape}

theorem unsignedMax?_of_unnamed {c : ColumnType} (h : isUnsignedName c.typeName = false) :
    unsignedMax? c = none := by
  rw [unsignedMax?, h, if_neg Bool.false_ne_true]

theorem checkUnsigned_eq {name : String} {c : ColumnType} {n max : Int} (h : 0 ≤ n ∧ n ≤ max) :
    checkUnsigned name c n max = .ok () := if_pos h

theorem carries_of_checked {k : Word} {param : k.Carrier → SqlValue} {max : Int}
    (hread : c.ReadsBy .mysql s k.value k.getter) (hnumber : ∀ a, (param a).IsNumber (k.number a))
    (hwrite : ∀ a name ordinal, (Vendor.mysql.write? name (c.columnType ordinal) (k.value a) :
      Option (ParamM Statement Unit)) = some (do
        checkUnsigned name (c.columnType ordinal) (k.number a) max
        (c.columnType ordinal).bind (param a))) :
    c.Carries .mysql s k 0 max where
  reads := hread
  writes a := by
    have hnull : (k.value a).isNull = false := by cases k <;> rfl
    constructor
    · intro ha
      refine ⟨param a, .of_answered hnull fun name ordinal => ?_, hnumber a⟩
      rw [hwrite, checkUnsigned_eq ha]
      rfl
    · intro ha
      apply Column.Refuses.of_answered hnull
      intro name ordinal
      rw [hwrite, checkUnsigned, if_neg ha]
      exact ⟨_, rfl⟩

theorem carries_of_year (hs : s = .boolean → c.code.standard? ≠ some .tinyInt)
    (hyear : isYear c.typeName = true) :
    c.Carries .mysql s .int Word.int.least Word.int.greatest where
  reads := by
    apply Column.ReadsBy.of_answered
    intro ordinal cur
    exact read?_of_isYear (c := c.columnType ordinal) hyear hs
  writes := Column.writesBetween_of_all fun n =>
    ⟨.i32 n, .of_answered rfl fun name ordinal => if_pos hyear, .i32 n⟩

section

variable (hyear : isYear c.typeName = false)
include hyear

theorem write?_word_of_unnamed {σ : Type} [ParamTarget σ] (k : Word)
    (hname : isUnsignedName c.typeName = false) (name : String) (ordinal : Nat) (a : k.Carrier) :
    (Vendor.mysql.write? name (c.columnType ordinal) (k.value a) : Option (ParamM σ Unit)) =
      none := by
  have hmax : unsignedMax? (c.columnType ordinal) = none := unsignedMax?_of_unnamed hname
  have hnone : ¬isYear (c.columnType ordinal).typeName = true := Bool.not_eq_true _ ▸ hyear
  cases k with
  | int => rw [Vendor.write?, Word.value, write?, if_neg hnone, hmax, Option.map_none]
  | long => rw [Vendor.write?, Word.value, write?, hmax, Option.map_none]

theorem carries_of_named (k : Word) (max : Int) (hread : c.ReadsBy .mysql s k.value k.getter)
    (hmax : ∀ ordinal, unsignedMax? (c.columnType ordinal) = some max) :
    c.Carries .mysql s k 0 max := by
  cases k with
  | int =>
      apply carries_of_checked hread .i32
      intro n name ordinal
      have hnone : ¬isYear c.typeName = true := Bool.not_eq_true _ ▸ hyear
      apply (if_neg hnone).trans
      rw [hmax ordinal]
      rfl
  | long =>
      apply carries_of_checked hread .i64
      intro n name ordinal
      rw [Vendor.write?, Word.value, write?, hmax ordinal]
      rfl

end

section

variable (hcode : c.code.standard? = some .bigInt) (hname : isUnsignedName c.typeName = true)
include hcode hname

theorem isUnsignedBigInt_eq (ordinal : Nat) :
    isUnsignedBigInt (c.columnType ordinal).code (c.columnType ordinal).typeName = true := by
  have his : c.code.is .bigInt = true := TypeCode.is_iff.2 hcode
  change (c.code.is .bigInt && isUnsignedName c.typeName) = true
  rw [his, hname]
  rfl

theorem readsBy_decimal (precision scale : Nat) :
    c.ReadsBy .mysql (.decimal precision scale) .decimal Cursor.decimal := by
  have hyear : isYear c.typeName = false := by
    rw [← Bool.not_eq_true]
    intro hyear
    rw [isUnsignedName_of_isYear hyear] at hname
    cases hname
  apply Column.ReadsBy.of_answered
  intro ordinal cur
  exact (read?_decimal cur (c.columnType ordinal) hyear precision scale).trans
    (if_pos (isUnsignedBigInt_eq hcode hname ordinal))

theorem writes_decimal {d : Decimal} (hsign : d.negative = false) (hwhole : d.isWhole = true) :
    c.Writes .mysql s (.decimal d) (.decimal d) := by
  have hkept : ¬(d.negative || !d.isWhole) = true := by
    rw [hsign, hwhole]
    exact Bool.false_ne_true
  apply Column.Writes.of_answered rfl
  intro name ordinal
  exact (if_pos (isUnsignedBigInt_eq hcode hname ordinal)).trans (if_neg hkept)

theorem refuses_decimal {d : Decimal} (hsign : d.negative = true) :
    c.Refuses .mysql s (.decimal d) := by
  have hrefused : (d.negative || !d.isWhole) = true := by
    rw [hsign]
    rfl
  apply Column.Refuses.of_answered rfl
  intro name ordinal
  exact ⟨_, (if_pos (isUnsignedBigInt_eq hcode hname ordinal)).trans (if_pos hrefused)⟩

theorem keepsNumber_decimal {f : Field} {n : Int} {precision scale : Nat}
    (hshape : f.type.shape = .decimal precision scale) (h0 : 0 ≤ n) :
    f.KeepsNumber .mysql c n := by
  intro ordinal cur p hp hn
  obtain ⟨d, hget, hnumber, hsigned⟩ := Cursor.exists_decimal hp hn
  refine ⟨.decimal d, (readsBy_decimal hcode hname precision scale).read_of_given hshape hget
    Value.noConfusion, ?_⟩
  by_cases hzero : d.IsSignedZero
  · exact .inl ⟨hsigned hzero, .decimal hzero⟩
  · have hwrites := writes_decimal (s := f.type.shape) hcode hname
      (hnumber.negative_eq_false h0 hzero) hnumber.isWhole
    exact .inr ⟨.decimal d, .decimal hnumber, hwrites.runOn rfl (Cursor.index_ne_zero hp)⟩

end

end MySql

end TableTransfer
