import TableTransfer.Proofs.Field.Storage
import TableTransfer.Proofs.Inference.MySql

namespace TableTransfer

/-- What a dialect reads of columns under the types that are inferred for them: values of other
shapes just from the columns that it misreads. -/
structure ReadsInferred (vendor : Vendor) (misreads : Column → Bool) : Prop where
  own {c : Column} {s : Shape} : vendor.type? c = some s →
    ∃ k, c.Reads vendor s k ∧ (k = s.storage? ↔ misreads c = false)
  general {c : Column} {s : Shape} : vendor.type? c = none → c.genericShape? = some s →
    misreads c = false ∧ ∀ ordinal cur r, vendor.read? cur s (c.columnType ordinal) = some r →
      ReadsAs s.storage? r

theorem ReadsAs.of_guarded {p : Prop} [Decidable p] {k : Option Physical}
    {a r : Except Error Value} (ha : ReadsAs k a) (h : (if p then some a else none) = some r) :
    ReadsAs k r := by
  obtain ⟨-, har⟩ := Option.ite_none_right_eq_some.1 h
  exact Option.some.inj har ▸ ha

theorem Postgres.read?_readsAs {cur : Cursor} {s : Shape} {c : ColumnType}
    {r : Except Error Value} (h : read? cur s c = some r) : ReadsAs s.storage? r := by
  simp only [read?] at h
  split at h
  · exact .of_guarded (.ofRead fun _ => rfl) h
  · exact .of_guarded (cur.roundedDecimal_readsAs _ _) h
  · cases h

theorem Postgres.readsInferred : ReadsInferred .postgres fun _ => false where
  own {c s} h := by
    refine ⟨s.storage?, Column.Reads.of_answered fun ordinal cur => ?_, by simp⟩
    simp only [Vendor.type?, type?] at h
    split at h <;> cases h
    rename_i hown
    have htext : isTextName c.typeName = true ∨ c.code.is .numeric = true := by
      simp only [isText, isUnbounded, Bool.or_eq_true, Bool.and_eq_true] at hown
      simp only [isTextName, Bool.or_eq_true]
      obtain (hname | hbit) | hnumeric := hown
      · exact .inl (.inl hname)
      · exact .inl (.inr hbit.1)
      · exact .inr hnumeric.1
    exact ⟨_, if_pos (Bool.or_eq_true_iff.2 htext), .ofRead fun _ => rfl⟩
  general _ _ := ⟨rfl, fun _ _ _ => read?_readsAs⟩

namespace SqlServer

def misreads (c : Column) : Bool := isSpatial c.typeName && c.code.family?.any (· != .binary)

theorem read?_readsAs {cur : Cursor} {s : Shape} {c : ColumnType} {r : Except Error Value}
    (h : read? cur s c = some r) : ReadsAs s.storage? r := by
  simp only [read?] at h
  split at h
  · split at h
    · cases h
      exact .ofRead fun _ => rfl
    · exact .of_guarded (.ofRead fun _ => rfl) h
  · cases h

theorem family?_of_text {c : Column} (h : c.code = offsetTimestamp ∨ c.code = variant) :
    c.code.family? = none := by
  rcases h with h | h <;> rw [h] <;> rfl

theorem readsInferred : ReadsInferred .sqlServer misreads where
  own {c s} h := by
    simp only [Vendor.type?, type?] at h
    split at h
    · rename_i htext
      rw [Bool.or_eq_true, decide_eq_true_iff, decide_eq_true_iff] at htext
      cases h
      refine ⟨_, .of_answered fun ordinal cur => ?_, by simp [misreads, family?_of_text htext]⟩
      by_cases hcode : c.code = offsetTimestamp
      · exact ⟨_, if_pos hcode, .ofRead fun _ => rfl⟩
      · have hvariant : c.code = variant := htext.resolve_left hcode
        exact ⟨_, (if_neg hcode).trans (if_pos hvariant), .ofRead fun _ => rfl⟩
    · split at h <;> cases h
      rename_i hspatial
      obtain ⟨k, hreads, hk⟩ := Column.Reads.of_unanswered .sqlServer c .bytes fun _ _ => rfl
      refine ⟨k, hreads, hk.trans ?_⟩
      rw [misreads, hspatial, Bool.true_and]
      exact Family.forall_storage?_iff Family.storage?_bytes
  general {c s} h _ := by
    refine ⟨?_, fun _ _ _ => read?_readsAs⟩
    simp only [Vendor.type?, type?] at h
    split at h
    · cases h
    · split at h
      · cases h
      · rename_i hspatial
        simp [misreads, hspatial]

end SqlServer

namespace Db2

def misreads (c : Column) : Bool := isGraphic c.typeName && c.code.family?.any (· != .text)

theorem read?_readsAs {cur : Cursor} {s : Shape} {c : ColumnType} {r : Except Error Value}
    (h : read? cur s c = some r) : ReadsAs s.storage? r := by
  simp only [read?] at h
  split at h
  · exact .of_guarded (.ofRead fun _ => rfl) h
  · exact .of_guarded (.ofRead fun _ => rfl) h
  · cases h

theorem not_graphic_of_isDecFloat {typeName : String} (h : isDecFloat typeName = true) :
    isGraphic typeName = false :=
  Text.isOneOf_congr h _

theorem misreads_of_isXml {c : Column} (h : isXml c.code c.typeName = true) :
    misreads c = false := by
  rw [isXml, Bool.or_eq_true, TypeCode.is_iff] at h
  obtain hcode | hname := h
  · simp [misreads, TypeCode.family?, hcode, StandardType.family?]
  · have hgraphic : isGraphic c.typeName = false := Text.isOneOf_congr hname _
    rw [misreads, hgraphic, Bool.false_and]

theorem readsInferred : ReadsInferred .db2 misreads where
  own {c s} h := by
    simp only [Vendor.type?, type?] at h
    split at h
    · rename_i hfloat
      cases h
      refine ⟨_, .of_answered fun ordinal cur => ⟨_, if_pos hfloat, .ofRead fun _ => rfl⟩, ?_⟩
      simp [misreads, not_graphic_of_isDecFloat hfloat]
    split at h <;> cases h
    rename_i htext
    by_cases hxml : isXml c.code c.typeName = true
    · refine ⟨_, .of_answered fun ordinal cur => ⟨_, if_pos hxml, .ofRead fun _ => rfl⟩, ?_⟩
      simp [misreads_of_isXml hxml]
    · have hgraphic : isGraphic c.typeName = true :=
        (Bool.or_eq_true_iff.1 htext).resolve_left hxml
      obtain ⟨k, hreads, hk⟩ := Column.Reads.of_unanswered .db2 c .string fun _ _ => if_neg hxml
      refine ⟨k, hreads, hk.trans ?_⟩
      rw [misreads, hgraphic, Bool.true_and]
      exact Family.forall_storage?_iff Family.storage?_string
  general {c s} h _ := by
    refine ⟨?_, fun _ _ _ => read?_readsAs⟩
    simp only [Vendor.type?, type?] at h
    split at h
    · cases h
    split at h
    · cases h
    rename_i htext
    rw [Bool.or_eq_true, not_or, Bool.not_eq_true, Bool.not_eq_true] at htext
    simp [misreads, htext.2]

end Db2

namespace Oracle

/-- The type name of a long text on a column whose code is of a family that is not text, or of a
binary number on one whose code is neither NUMERIC nor of a family of binary numbers. -/
def misreads (c : Column) : Bool :=
  isLong c.typeName && c.code.family?.any (· != .text) ||
    isFloatNumber c.typeName && !c.code.is .numeric &&
      c.code.family?.any (· ∉ [.real, .float, .double])

theorem misreads_of_family? {c : Column} (h : c.code.family? = none) : misreads c = false := by
  simp [misreads, h]

theorem not_floatNumber_of_isLong {typeName : String} (h : isLong typeName = true) :
    isFloatNumber typeName = false :=
  congrFun (Text.sameLetters_congr h) _

section

variable {cur : Cursor} {s : Shape} {c : ColumnType} {r : Except Error Value}

theorem read?_of_localTimestamp (h : c.code = localTimestamp) :
    read? cur s c = some (cur.timestampAs s c.ordinal) := if_pos h

theorem read?_of_externalFile (h : c.code = externalFile) :
    read? cur s c = some (Value.ofRead .bytes (cur.bytes c.ordinal)) := by
  unfold read?
  rw [h]
  rfl

theorem read?_of_binaryFloat (h : c.code = binaryFloat) :
    read? cur .float c = some (Value.ofRead .float (cur.binary32 c.ordinal)) := by
  unfold read?
  rw [h]
  rfl

theorem family?_of_isTextCode {code : TypeCode} (h : isTextCode code = true) :
    code.family? = none := by
  simp only [isTextCode, Bool.or_eq_true, beq_iff_eq, TypeCode.is_iff] at h
  obtain ((rfl | rfl) | rfl) | hrow := h
  · rfl
  · rfl
  · rfl
  · rw [TypeCode.family?, hrow]
    rfl

theorem read?_of_binaryDouble (h : c.code = binaryDouble) :
    read? cur .double c = some (Value.ofRead .double (cur.binary64 c.ordinal)) := by
  unfold read?
  rw [h]
  rfl

variable (hlocal : c.code ≠ localTimestamp) (hfile : c.code ≠ externalFile)
include hlocal hfile

theorem read?_string :
    read? cur .string c =
      if isTextCode c.code then some (Value.ofRead .string (cur.string c.ordinal)) else none :=
  (if_neg hlocal).trans (if_neg hfile)

theorem read?_double :
    read? cur .double c =
      if c.code = binaryDouble || c.code.is .numeric then
        some (Value.ofRead .double (cur.binary64 c.ordinal))
      else none :=
  (if_neg hlocal).trans (if_neg hfile)

theorem read?_readsAs (h : read? cur s c = some r) : ReadsAs s.storage? r := by
  unfold read? at h
  rw [if_neg hlocal, if_neg hfile] at h
  split at h
  · exact .of_guarded (.ofRead fun _ => rfl) h
  · exact .of_guarded (.ofRead fun _ => rfl) h
  · exact .of_guarded (.ofRead fun _ => rfl) h
  · exact .of_guarded (cur.roundedDecimal_readsAs _ _) h
  · cases h

end

section

variable {c : Column} (hlocal : c.code ≠ localTimestamp) (hfile : c.code ≠ externalFile)
include hlocal hfile

theorem reads_string (hown : isTextCode c.code = true ∨ isLong c.typeName = true) :
    ∃ k, c.Reads .oracle .string k ∧ (k = Shape.string.storage? ↔ misreads c = false) := by
  by_cases htext : isTextCode c.code = true
  · exact ⟨_, .of_answered fun _ _ =>
      ⟨_, (read?_string hlocal hfile).trans (if_pos htext), .ofRead fun _ => rfl⟩,
      iff_of_true rfl (misreads_of_family? (family?_of_isTextCode htext))⟩
  · have hlong := hown.resolve_left htext
    obtain ⟨k, hreads, hk⟩ := Column.Reads.of_unanswered .oracle c .string fun _ _ =>
      (read?_string hlocal hfile).trans (if_neg htext)
    refine ⟨k, hreads, hk.trans ?_⟩
    rw [misreads, hlong, not_floatNumber_of_isLong hlong, Bool.true_and, Bool.false_and,
      Bool.false_and, Bool.or_false]
    exact Family.forall_storage?_iff Family.storage?_string

theorem reads_double (hdouble : c.code ≠ binaryDouble) (hlong : isLong c.typeName = false)
    (hown : isFloatNumber c.typeName = true ∨ c.code.is .numeric = true) :
    ∃ k, c.Reads .oracle .double k ∧ (k = Shape.double.storage? ↔ misreads c = false) := by
  cases hnumeric : c.code.is .numeric with
  | true =>
      exact ⟨_, .of_answered fun _ _ => ⟨_, (read?_double hlocal hfile).trans
        (if_pos (Bool.or_eq_true_iff.2 (.inr hnumeric))), .ofRead fun _ => rfl⟩,
        iff_of_true rfl (by simp [misreads, hlong, hnumeric])⟩
  | false =>
      have hfloat : isFloatNumber c.typeName = true :=
        hown.resolve_right (by simp [hnumeric])
      have hneither : ¬(decide (c.code = binaryDouble) || c.code.is .numeric) = true := by
        simp [hdouble, hnumeric]
      obtain ⟨k, hreads, hk⟩ := Column.Reads.of_unanswered .oracle c .double fun _ _ =>
        (read?_double hlocal hfile).trans (if_neg hneither)
      refine ⟨k, hreads, hk.trans ?_⟩
      rw [misreads, hlong, hfloat, hnumeric, Bool.false_and, Bool.false_or, Bool.not_false,
        Bool.true_and, Bool.true_and]
      exact Family.forall_storage?_iff Family.storage?_double

end

theorem readsInferred : ReadsInferred .oracle misreads where
  own {c s} h := by
    simp only [Vendor.type?, type?] at h
    split at h
    · rename_i hcode
      cases h
      exact ⟨_, .of_answered fun _ _ => ⟨_, read?_of_binaryFloat hcode, .ofRead fun _ => rfl⟩,
        iff_of_true rfl (misreads_of_family? (by rw [hcode]; rfl))⟩
    split at h
    · rename_i hcode
      cases h
      exact ⟨_, .of_answered fun _ _ => ⟨_, read?_of_binaryDouble hcode, .ofRead fun _ => rfl⟩,
        iff_of_true rfl (misreads_of_family? (by rw [hcode]; rfl))⟩
    rename_i hdouble
    split at h
    · rename_i hcode
      cases h
      exact ⟨_, .of_answered fun _ cur => ⟨_, read?_of_localTimestamp hcode,
        cur.timestampAs_readsAs _ _⟩, iff_of_true rfl (misreads_of_family? (by rw [hcode]; rfl))⟩
    rename_i hlocal
    split at h
    · rename_i hcode
      cases h
      exact ⟨_, .of_answered fun _ _ => ⟨_, read?_of_externalFile hcode, .ofRead fun _ => rfl⟩,
        iff_of_true rfl (misreads_of_family? (by rw [hcode]; rfl))⟩
    rename_i hfile
    split at h
    · rename_i hown
      cases h
      exact reads_string hlocal hfile (Bool.or_eq_true_iff.1 hown)
    rename_i hother
    have hlong : isLong c.typeName = false := by
      rw [Bool.or_eq_true, not_or, Bool.not_eq_true, Bool.not_eq_true] at hother
      exact hother.2
    split at h
    · rename_i hown
      cases h
      refine reads_double hlocal hfile hdouble hlong ((Bool.or_eq_true_iff.1 hown).imp_right ?_)
      intro hbare
      rw [isBareNumber, Bool.and_eq_true, Bool.and_eq_true] at hbare
      exact hbare.1.1
    · cases h
  general {c s} h _ := by
    simp only [Vendor.type?, type?] at h
    split at h
    · cases h
    split at h
    · cases h
    split at h
    · cases h
    rename_i hlocal
    split at h
    · cases h
    rename_i hfile
    refine ⟨?_, fun _ _ _ => read?_readsAs hlocal hfile⟩
    split at h
    · cases h
    rename_i hother
    split at h
    · cases h
    rename_i hnumber
    rw [Bool.or_eq_true, not_or, Bool.not_eq_true, Bool.not_eq_true] at hother hnumber
    simp [misreads, hother.2, hnumber.1]

end Oracle

namespace MySql

def misreads (c : Column) : Bool :=
  if isYear c.typeName then c.code.is .bit
  else c.code.is .bigInt && !c.signed && !isUnsignedName c.typeName

section

variable {c : Column} {t : StandardType}

theorem misreads_of_standard? (h : c.code.standard? = some t) (hbit : t ≠ .bit)
    (hbig : t ≠ .bigInt) : misreads c = false := by
  simp [misreads, TypeCode.is_eq_decide, h, hbit, hbig]

theorem misreads_of_isYear (hyear : isYear c.typeName = true) : misreads c = c.code.is .bit :=
  if_pos hyear

theorem misreads_of_bit (h : c.code.standard? = some .bit) : misreads c = isYear c.typeName := by
  cases hyear : isYear c.typeName <;> simp [misreads, TypeCode.is_eq_decide, h, hyear]

theorem misreads_of_bigInt (hyear : isYear c.typeName = false)
    (h : c.code.standard? = some .bigInt) :
    misreads c = (!c.signed && !isUnsignedName c.typeName) := by
  simp [misreads, TypeCode.is_eq_decide, h, hyear]

end

section

variable {cur : Cursor} {s : Shape} {c : ColumnType}

theorem year?_of_isYear (hyear : isYear c.typeName = true) :
    read?.year? cur c = some (Value.ofRead .int (cur.int32 c.ordinal)) := if_pos hyear

theorem year?_of_not_isYear (hyear : isYear c.typeName = false) : read?.year? cur c = none :=
  if_neg (Bool.not_eq_true _ ▸ hyear)

theorem read?_of_isYear (hyear : isYear c.typeName = true)
    (hflag : s = .boolean → c.code.standard? ≠ some .tinyInt) :
    read? cur s c = some (Value.ofRead .int (cur.int32 c.ordinal)) := by
  have hor (r) : (read?.year? cur c).or r = some (Value.ofRead .int (cur.int32 c.ordinal)) := by
    rw [year?_of_isYear hyear, Option.some_or]
  cases s with
  | boolean =>
      have hcode := mt TypeCode.is_iff.1 (hflag rfl)
      exact (if_neg hcode).trans (year?_of_isYear hyear)
  | bytes | decimal _ _ => exact hor _
  | null | int | long | float | double | string | date | timeMillis | timeMicros
  | timestampMillis | timestampMicros | array _ | record _ => exact year?_of_isYear hyear

variable (hyear : isYear c.typeName = false)
include hyear

theorem read?_boolean (h : c.code.standard? ≠ some .tinyInt) : read? cur .boolean c = none :=
  (if_neg (mt TypeCode.is_iff.1 h)).trans (year?_of_not_isYear hyear)

variable (cur c)

theorem read?_bytes :
    read? cur .bytes c =
      if c.code.is .bit then some (Value.ofRead .bytes (cur.bytes c.ordinal)) else none := by
  change (read?.year? cur c).or _ = _
  rw [year?_of_not_isYear hyear, Option.none_or]

theorem read?_decimal (precision scale : Nat) :
    read? cur (.decimal precision scale) c =
      if isUnsignedBigInt c.code c.typeName then
        some (Value.ofRead .decimal (cur.decimal c.ordinal))
      else none := by
  change (read?.year? cur c).or _ = _
  rw [year?_of_not_isYear hyear, Option.none_or]

theorem read?_readsAs {r : Except Error Value} (h : read? cur s c = some r) :
    ReadsAs s.storage? r := by
  cases s with
  | boolean =>
      change (if _ then _ else read?.year? cur c) = _ at h
      rw [year?_of_not_isYear hyear] at h
      split at h <;> cases h
      exact .ofRead fun _ => rfl
  | bytes =>
      rw [read?_bytes cur c hyear] at h
      split at h <;> cases h
      exact .ofRead fun _ => rfl
  | decimal _ _ =>
      rw [read?_decimal cur c hyear] at h
      split at h <;> cases h
      exact .ofRead fun _ => rfl
  | null | int | long | float | double | string | date | timeMillis | timeMicros
  | timestampMillis | timestampMicros | array _ | record _ =>
      cases (year?_of_not_isYear hyear).symm.trans h

end

section

variable {c : Column} {s : Shape}

theorem reads_of_family {family : Family} (hcode : c.code.family? = some family)
    (hnone : ∀ ordinal cur, Vendor.mysql.read? cur s (c.columnType ordinal) = none)
    (hstorage : family.storage? s = s.storage?) : c.Reads .mysql s s.storage? := by
  rw [← hstorage]
  exact .of_family hnone hcode

theorem family?_of_standard? {t : StandardType} (h : c.code.standard? = some t) :
    c.code.family? = t.family? := by
  rw [TypeCode.family?, h, Option.bind_some]

theorem reads_year (hyear : isYear c.typeName = true)
    (hflag : s = .boolean → c.code.standard? ≠ some .tinyInt) : c.Reads .mysql s (some .int) :=
  .of_other 1 (.single [] [.i64 1])
    (fun _ _ => ⟨_, read?_of_isYear hyear hflag, .ofRead fun _ => rfl⟩)
    (read?_of_isYear hyear hflag) Value.noConfusion

theorem reads_bit_of_isYear (hyear : isYear c.typeName = true) (h : c.code.standard? = some .bit)
    (hs : some Physical.int ≠ s.storage?) :
    ∃ k, c.Reads .mysql s k ∧ (k = s.storage? ↔ misreads c = false) := by
  have hflag : c.code.standard? ≠ some .tinyInt := by simp [h]
  refine ⟨_, reads_year hyear fun _ => hflag, iff_of_false hs ?_⟩
  rw [misreads_of_bit h, hyear]
  exact Bool.noConfusion

theorem reads_whole {t : StandardType} {family : Family} (hyear : isYear c.typeName = false)
    (hs : s = .int ∨ s = .long) (h : c.code.standard? = some t) (hfamily : t.family? = some family)
    (hstorage : family.storage? s = s.storage?) : c.Reads .mysql s s.storage? := by
  refine reads_of_family ((family?_of_standard? h).trans hfamily) (fun _ _ => ?_) hstorage
  rcases hs with rfl | rfl <;> exact year?_of_not_isYear hyear

theorem reads_big (hyear : isYear c.typeName = false) (hunsigned : isUnsigned c = true)
    (h : c.code.standard? = some .bigInt) :
    ∃ k, c.Reads .mysql (.decimal 20 0) k ∧
      (k = (Shape.decimal 20 0).storage? ↔ misreads c = false) := by
  have hread (ordinal : Nat) (cur : Cursor) := read?_decimal cur (c.columnType ordinal) hyear 20 0
  rw [misreads_of_bigInt hyear h]
  cases hname : isUnsignedName c.typeName with
  | true =>
      have hbig : isUnsignedBigInt c.code c.typeName = true := by
        rw [isUnsignedBigInt, TypeCode.is_iff.2 h, hname]
        rfl
      exact ⟨_, .of_answered fun ordinal cur => ⟨_, (hread ordinal cur).trans (if_pos hbig),
        .ofRead fun _ => rfl⟩, iff_of_true rfl (Bool.and_false _)⟩
  | false =>
      have hbig : ¬isUnsignedBigInt c.code c.typeName = true := by
        rw [isUnsignedBigInt, hname, Bool.and_false]
        exact Bool.false_ne_true
      have hsigned : c.signed = false := by
        rw [isUnsigned, hname, Bool.or_false, Bool.not_eq_true'] at hunsigned
        exact hunsigned
      refine ⟨_, .of_family (fun ordinal cur => (hread ordinal cur).trans (if_neg hbig))
        (family?_of_standard? h), iff_of_false ?_ ?_⟩
      · exact Option.some_ne_none _
      · rw [hsigned]
        exact Bool.noConfusion

theorem Gives.reads (h : Gives c s) :
    ∃ k, c.Reads .mysql s k ∧ (k = s.storage? ↔ misreads c = false) := by
  cases h with
  | flag h =>
      exact ⟨_, .of_answered fun _ _ => ⟨_, if_pos (TypeCode.is_iff.2 h), .ofRead fun _ => rfl⟩,
        iff_of_true rfl (misreads_of_standard? h (by decide) (by decide))⟩
  | bits h =>
      cases hyear : isYear c.typeName with
      | true => exact reads_bit_of_isYear hyear h (by decide)
      | false =>
          have hread (ordinal : Nat) (cur : Cursor) :=
            (read?_bytes cur (c.columnType ordinal) hyear).trans (if_pos (TypeCode.is_iff.2 h))
          exact ⟨_, .of_answered fun ordinal cur => ⟨_, hread ordinal cur, .ofRead fun _ => rfl⟩,
            iff_of_true rfl ((misreads_of_bit h).trans hyear)⟩
  | bit h =>
      cases hyear : isYear c.typeName with
      | true => exact reads_bit_of_isYear hyear h (by decide)
      | false =>
          have hflag : c.code.standard? ≠ some .tinyInt := by simp [h]
          exact ⟨_, reads_of_family (family?_of_standard? h) (fun _ _ => read?_boolean hyear hflag)
            rfl, iff_of_true rfl ((misreads_of_bit h).trans hyear)⟩
  | year h hyear =>
      refine ⟨_, reads_year hyear (fun h => nomatch h), iff_of_true rfl ?_⟩
      rwa [misreads_of_isYear hyear, ← Bool.not_eq_true, TypeCode.is_iff]
  | small hyear hunsigned h =>
      rcases h with h | h <;>
        exact ⟨_, reads_whole hyear (.inl rfl) h rfl rfl,
          iff_of_true rfl (misreads_of_standard? h (by decide) (by decide))⟩
  | medium hyear hunsigned h =>
      exact ⟨_, reads_whole hyear (.inl rfl) h rfl rfl,
        iff_of_true rfl (misreads_of_standard? h (by decide) (by decide))⟩
  | wide hyear hunsigned h =>
      exact ⟨_, reads_whole hyear (.inr rfl) h rfl rfl,
        iff_of_true rfl (misreads_of_standard? h (by decide) (by decide))⟩
  | big hyear hunsigned h => exact reads_big hyear hunsigned h

end

theorem readsInferred : ReadsInferred .mysql misreads where
  own h := (gives_of_type? h).reads
  general {c s} h _ := by
    obtain ⟨-, hyear, hunsigned⟩ := not_unsigned_of_type?_eq_none h
    refine ⟨?_, fun ordinal cur _ => read?_readsAs cur (c.columnType ordinal) hyear⟩
    rw [misreads, hyear, if_neg Bool.false_ne_true, TypeCode.is_eq_decide]
    cases hsigned : c.signed with
    | true => simp
    | false => simp [(hunsigned (by simp [isUnsigned, hsigned])).2]

end MySql

namespace Vendor

/-- The columns of the dialect that fields of the inferred type read values of other shapes from. -/
def misreads (v : Vendor) (c : Column) : Bool :=
  match v with
  | generic | postgres => false
  | mysql => MySql.misreads c
  | oracle => Oracle.misreads c
  | sqlServer => SqlServer.misreads c
  | db2 => Db2.misreads c

theorem readsInferred (v : Vendor) : ReadsInferred v v.misreads := by
  cases v with
  | generic =>
      refine ⟨fun h => ?_, fun _ _ => ⟨rfl, fun _ _ _ h => ?_⟩⟩
      · cases h
      · cases h
  | mysql => exact MySql.readsInferred
  | postgres => exact Postgres.readsInferred
  | oracle => exact Oracle.readsInferred
  | sqlServer => exact SqlServer.readsInferred
  | db2 => exact Db2.readsInferred

end Vendor

namespace Column

variable {vendor : Vendor} {c : Column} {t : UniversalType}

theorem exists_reads_of_infer (h : c.infer vendor = .ok t) :
    ∃ k, c.Reads vendor t.shape k ∧ (k = t.shape.storage? ↔ vendor.misreads c = false) := by
  simp only [infer] at h
  split at h
  · rename_i s hs
    cases h
    cases htype : vendor.type? c with
    | some own =>
        obtain rfl : own = s := by simpa [htype] using hs
        exact vendor.readsInferred.own htype
    | none =>
        have hgeneral : c.genericShape? = some s := by simpa [htype] using hs
        obtain ⟨hmisreads, hkept⟩ := vendor.readsInferred.general htype hgeneral
        refine ⟨_, .of_kept hkept fun _ _ family _ hfamily => ?_, iff_of_true rfl hmisreads⟩
        rw [genericShape?, hfamily] at hgeneral
        exact Family.storage?_of_shape? hgeneral
  · cases h

/-- Whatever a row holds, reading a field of the type that is inferred for a column gives nothing
but missing values, where the type allows them, and values of the shape of this type, just if the
column is not one that the dialect misreads. -/
theorem hasShape_of_read_inferred_iff (h : c.infer vendor = .ok t) :
    (∀ name ordinal cur v,
      Field.read vendor ⟨name, t⟩ cur (c.columnType ordinal) = .ok v →
        (v = .null ∧ t.nullable = true) ∨ v.HasShape t.shape) ↔ vendor.misreads c = false := by
  obtain ⟨k, hreads, hk⟩ := exists_reads_of_infer h
  exact hreads.hasShape_iff.trans hk

theorem hasShape_of_read_inferred_unsigned :
    ∃ t, infer .mysql
        { name := "HITS", code := StandardType.bigInt.code,
          typeName := "BIGINT UNSIGNED" } = .ok t ∧
      ∀ name ordinal cur v,
        Field.read .mysql ⟨name, t⟩ cur
            (columnType { name := "HITS", code := StandardType.bigInt.code,
                          typeName := "BIGINT UNSIGNED" } ordinal) = .ok v →
          (v = .null ∧ t.nullable = true) ∨ v.HasShape t.shape :=
  ⟨⟨.decimal 20 0, true⟩, rfl, (hasShape_of_read_inferred_iff rfl).2 (by decide)⟩

/-- A big integer that only its flag calls unsigned is a decimal by its type and read as a word. -/
theorem read_inferred_unsigned_by_flag :
    ∃ t v, infer .mysql
        { name := "HITS", code := StandardType.bigInt.code, typeName := "BIGINT",
          signed := false } = .ok t ∧
      Field.read .mysql ⟨"HITS", t⟩ (.single [] [.i64 7])
          (columnType { name := "HITS", code := StandardType.bigInt.code, typeName := "BIGINT",
                        signed := false } 1) = .ok v ∧
      ¬((v = .null ∧ t.nullable = true) ∨ v.HasShape t.shape) := by
  refine ⟨⟨.decimal 20 0, true⟩, .long 7, rfl, rfl, ?_⟩
  rintro (⟨hnull, -⟩ | ⟨d, hdecimal⟩)
  · cases hnull
  · cases hdecimal

end Column

end TableTransfer
