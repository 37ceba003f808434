import TableTransfer.Proofs.Field.Inferred
import TableTransfer.Proofs.Field.Writable

namespace TableTransfer

variable {c : Column} {s : Shape} {v : Value}

namespace Postgres

def HasRoom (c : Column) (v : Value) : Prop :=
  match v with
  | .string text => isTextName c.typeName = false → c.code.is .numeric = true →
      ∃ d, Decimal.ofText (Text.trim text.toList) = .ok d
  | v => c.HasRoom v

theorem write?_eq_none {σ : Type} [ParamTarget σ] (h : ∀ text, v ≠ .string text) (name : String)
    (ordinal : Nat) :
    (Vendor.postgres.write? name (c.columnType ordinal) v : Option (ParamM σ Unit)) = none := by
  cases v with
  | string text => exact absurd rfl (h text)
  | null | boolean _ | int _ | long _ | float _ | double _ | bytes _ | decimal _ | array _
  | record _ => rfl

theorem fits_of_unbounded {precision scale : Nat} (h : isUnbounded c = true) :
    (Shape.decimal precision scale).fits c = true := by
  rw [isUnbounded, Bool.and_eq_true, TypeCode.is_iff] at h
  rw [Shape.fits, TypeCode.family?, h.1]
  rfl

theorem fits_of_holds (hs : s ≠ .string)
    (hholds : (accepts? s.required c).getD (s.fits c) = true) : s.fits c = true := by
  cases s with
  | string => exact absurd rfl hs
  | decimal precision scale =>
      cases hunbounded : isUnbounded c with
      | true => exact fits_of_unbounded hunbounded
      | false =>
          have hown : accepts? (Shape.decimal precision scale).required c = none :=
            if_neg (by simp [hunbounded])
          rwa [hown] at hholds
  | null | boolean | int | long | float | double | bytes | date | timeMillis | timeMicros
  | timestampMillis | timestampMicros | array _ | record _ => exact hholds

theorem fits_text_of_holds (hname : isTextName c.typeName = false)
    (hnumeric : c.code.is .numeric = false)
    (hholds : (accepts? Shape.string.required c).getD (Shape.string.fits c) = true) :
    Shape.string.fits c = true := by
  have hown : accepts? Shape.string.required c = none := by
    apply if_neg
    simp only [isTextName, Bool.or_eq_false_iff] at hname
    simp [isText, isUnbounded, Column.typeNameIs, hname, hnumeric]
  rwa [hown] at hholds

theorem exists_writes (hscalar : s.isScalar = true)
    (hholds : (accepts? s.required c).getD (s.fits c) = true) (hv : v.HasShape s)
    (hdecodes : v.Decodes s) (hroom : HasRoom c v) : ∃ p, c.Writes .postgres s v p := by
  by_cases hs : s = .string
  · subst hs
    obtain ⟨text, rfl⟩ := hv.isOf rfl
    cases hname : isTextName c.typeName with
    | true =>
        refine ⟨.object c.typeName text, .of_answered rfl fun name ordinal => ?_⟩
        exact if_pos hname
    | false =>
        have hother : ¬isTextName c.typeName = true := by simp [hname]
        cases hnumeric : c.code.is .numeric with
        | true =>
            obtain ⟨d, hd⟩ := hroom hname hnumeric
            refine ⟨.decimal d, .of_answered rfl fun name ordinal => ?_⟩
            apply (if_neg hother).trans
            apply (if_pos hnumeric).trans
            rw [hd]
        | false =>
            have hplain : ¬c.code.is .numeric = true := by simp [hnumeric]
            apply Column.exists_writes_of_fits hscalar (fits_text_of_holds hname hnumeric hholds) hv
              hdecodes
            · intro family _
              cases family <;> trivial
            · intro name ordinal
              exact (if_neg hother).trans (if_neg hplain)
  · have htext := hv.ne_string hs
    have hown : c.HasRoom v := by
      cases v with
      | string text => exact absurd rfl (htext text)
      | null | boolean _ | int _ | long _ | float _ | double _ | bytes _ | decimal _ | array _
      | record _ => exact hroom
    exact Column.exists_writes_of_fits hscalar (fits_of_holds hs hholds) hv hdecodes hown
      (write?_eq_none htext)

end Postgres

theorem Family.eq_of_any_ne {code : TypeCode} {own : Family}
    (h : code.family?.any (· != own) = false) {family : Family}
    (hfamily : code.family? = some family) : family = own := by
  rw [hfamily] at h
  exact by simpa using h

namespace SqlServer

def HasRoom (c : Column) (v : Value) : Prop :=
  match v with
  | .string text => c.code = offsetTimestamp → ∃ p, ∀ field, offsetTimestampOf field text = .ok p
  | .int n => if c.code.is .tinyInt then 0 ≤ n.toInt ∧ n.toInt ≤ 255 else c.HasRoom (.int n)
  | v => c.HasRoom v

theorem mem_families (hscalar : s.isScalar = true)
    (hholds : (accepts? s.required c).getD (s.fits c) = true)
    (hstring : s = .string → c.code ≠ offsetTimestamp ∧ c.code ≠ variant)
    (hkept : s = .bytes → misreads c = false) {family : Family}
    (hfamily : c.code.family? = some family) : family ∈ s.families := by
  cases s with
  | string =>
      obtain ⟨hoffset, hvariant⟩ := hstring rfl
      have hown : accepts? Shape.string.required c = none := if_neg (by simp [hoffset, hvariant])
      rw [hown] at hholds
      exact Shape.mem_families_of_fits hscalar hholds hfamily
  | bytes =>
      cases hspatial : isSpatial c.typeName with
      | true =>
          have hbinary := hkept rfl
          rw [misreads, hspatial, Bool.true_and] at hbinary
          rw [Family.eq_of_any_ne hbinary hfamily]
          exact List.mem_singleton.2 rfl
      | false =>
          have hown : accepts? Shape.bytes.required c = none := if_neg (by simp [hspatial])
          rw [hown] at hholds
          exact Shape.mem_families_of_fits hscalar hholds hfamily
  | null | boolean | int | long | float | double | date | timeMillis | timeMicros
  | timestampMillis | timestampMicros | decimal _ _ | array _ | record _ =>
      exact Shape.mem_families_of_fits hscalar hholds hfamily

theorem exists_writes (hscalar : s.isScalar = true)
    (hholds : (accepts? s.required c).getD (s.fits c) = true) (hv : v.HasShape s)
    (hdecodes : v.Decodes s) (hkept : s = .bytes → misreads c = false) (hroom : HasRoom c v) :
    ∃ p, c.Writes .sqlServer s v p := by
  by_cases hs : s = .string
  · subst hs
    obtain ⟨text, rfl⟩ := hv.isOf rfl
    by_cases hoffset : c.code = offsetTimestamp
    · obtain ⟨p, hp⟩ := hroom hoffset
      refine ⟨p, .of_answered rfl fun name ordinal => ?_⟩
      apply (if_pos hoffset).trans
      rw [hp]
      rfl
    by_cases hvariant : c.code = variant
    · refine ⟨.object c.typeName text, .of_answered rfl fun name ordinal => ?_⟩
      exact (if_neg hoffset).trans (if_pos hvariant)
    apply Column.exists_writes hscalar _ hv hdecodes
    · intro family _
      cases family <;> trivial
    · intro name ordinal
      exact (if_neg hoffset).trans (if_neg hvariant)
    · intro family
      exact mem_families hscalar hholds (fun _ => ⟨hoffset, hvariant⟩) hkept
  · have hmem : ∀ family, c.code.family? = some family → family ∈ s.families := by
      intro family
      exact mem_families hscalar hholds (fun h => absurd h hs) hkept
    cases v with
    | string text => exact absurd rfl (hv.ne_string hs text)
    | int n =>
        cases htiny : c.code.is .tinyInt with
        | true =>
            have hrange : 0 ≤ n.toInt ∧ n.toInt ≤ 255 := (if_pos htiny).mp hroom
            refine ⟨.i16 (Int16.ofInt n.toInt), .of_answered rfl fun name ordinal => ?_⟩
            exact (if_pos htiny).trans (if_pos hrange)
        | false =>
            have hother : ¬c.code.is .tinyInt = true := by simp [htiny]
            have hown : c.HasRoom (.int n) := (if_neg hother).mp hroom
            exact Column.exists_writes hscalar hmem hv hdecodes hown fun _ _ => if_neg hother
    | null | boolean _ | long _ | float _ | double _ | bytes _ | decimal _ | array _ | record _ =>
        exact Column.exists_writes hscalar hmem hv hdecodes hroom fun _ _ => rfl

end SqlServer

namespace Db2

theorem mem_families (hscalar : s.isScalar = true)
    (hholds : (accepts? s.required c).getD (s.fits c) = true)
    (hdouble : s = .double → isDecFloat c.typeName = false)
    (hstring : s = .string → isXml c.code c.typeName = false ∧ misreads c = false)
    {family : Family} (hfamily : c.code.family? = some family) : family ∈ s.families := by
  cases s with
  | string =>
      obtain ⟨hxml, hkept⟩ := hstring rfl
      cases hgraphic : isGraphic c.typeName with
      | true =>
          rw [misreads, hgraphic, Bool.true_and] at hkept
          rw [Family.eq_of_any_ne hkept hfamily]
          exact List.mem_singleton.2 rfl
      | false =>
          have hown : accepts? Shape.string.required c = none := if_neg (by simp [hxml, hgraphic])
          rw [hown] at hholds
          exact Shape.mem_families_of_fits hscalar hholds hfamily
  | double =>
      have hown : accepts? Shape.double.required c = none := if_neg (by simp [hdouble rfl])
      rw [hown] at hholds
      exact Shape.mem_families_of_fits hscalar hholds hfamily
  | null | boolean | int | long | float | bytes | date | timeMillis | timeMicros
  | timestampMillis | timestampMicros | decimal _ _ | array _ | record _ =>
      exact Shape.mem_families_of_fits hscalar hholds hfamily

theorem exists_writes (hscalar : s.isScalar = true)
    (hholds : (accepts? s.required c).getD (s.fits c) = true) (hv : v.HasShape s)
    (hdecodes : v.Decodes s) (hkept : s = .string → misreads c = false) (hroom : c.HasRoom v) :
    ∃ p, c.Writes .db2 s v p := by
  cases v with
  | string text =>
      cases hxml : isXml c.code c.typeName with
      | true =>
          refine ⟨.object c.typeName text, .of_answered rfl fun name ordinal => ?_⟩
          exact if_pos hxml
      | false =>
          have hother : ¬isXml c.code c.typeName = true := by simp [hxml]
          apply Column.exists_writes hscalar _ hv hdecodes hroom
          · intro name ordinal
            exact if_neg hother
          · intro family
            apply mem_families hscalar hholds _ fun h => ⟨hxml, hkept h⟩
            rintro rfl
            cases hv
  | double x =>
      cases hfloat : isDecFloat c.typeName with
      | true =>
          refine ⟨.f64 x, .of_answered rfl fun name ordinal => ?_⟩
          exact if_pos hfloat
      | false =>
          have hother : ¬isDecFloat c.typeName = true := by simp [hfloat]
          apply Column.exists_writes hscalar _ hv hdecodes hroom
          · intro name ordinal
            exact if_neg hother
          · intro family
            apply mem_families hscalar hholds fun _ => hfloat
            rintro rfl
            cases hv
  | null | boolean _ | int _ | long _ | float _ | bytes _ | decimal _ | array _ | record _ =>
      apply Column.exists_writes hscalar _ hv hdecodes hroom fun _ _ => rfl
      intro family
      apply mem_families hscalar hholds
      · rintro rfl
        cases hv
      · rintro rfl
        cases hv

end Db2

namespace Oracle

def miswrites (s : Shape) (c : Column) : Bool :=
  match s with
  | .string => isLong c.typeName && c.code.family?.any (· != .text)
  | .double =>
    isFloatNumber c.typeName && !c.code.is .numeric &&
      c.code.family?.any (fun f => f != .float && f != .double)
  | _ => false

theorem accepts?_of_logical (h : s.logical?.isSome = true) :
    accepts? s.required c =
      if c.code = localTimestamp then some (isRequiredTimestamp s.required)
      else if isBareNumber c then some s.decimalScale?.isSome
      else none :=
  if_pos h

theorem mem_families_of_logical (hscalar : s.isScalar = true) (hlogical : s.logical?.isSome = true)
    (hholds : (accepts? s.required c).getD (s.fits c) = true) {family : Family}
    (hfamily : c.code.family? = some family) : family ∈ s.families := by
  have hlocal : c.code ≠ localTimestamp := TypeCode.ne_of_family? hfamily rfl
  rw [accepts?_of_logical hlogical, if_neg hlocal] at hholds
  cases hbare : isBareNumber c with
  | false =>
      rw [hbare, if_neg Bool.false_ne_true] at hholds
      exact Shape.mem_families_of_fits hscalar hholds hfamily
  | true =>
      rw [hbare, if_pos rfl] at hholds
      have hnumeric : family = .numeric := by
        rw [isBareNumber, Bool.and_eq_true, Bool.and_eq_true, TypeCode.is_iff] at hbare
        rw [TypeCode.family?, hbare.1.1] at hfamily
        exact (Option.some.inj hfamily).symm
      rw [hnumeric]
      cases s with
      | decimal precision scale => exact List.mem_singleton.2 rfl
      | null | boolean | int | long | float | double | bytes | string | date | timeMillis
      | timeMicros | timestampMillis | timestampMicros | array _ | record _ => cases hholds

theorem mem_families (hscalar : s.isScalar = true) (hfile : c.code ≠ externalFile)
    (hholds : (accepts? s.required c).getD (s.fits c) = true) (hkept : miswrites s c = false)
    (hstring : s = .string → isTextCode c.code = false)
    (hdouble : s = .double → c.code.is .numeric = false ∧ isFloatNumber c.typeName = false)
    {family : Family} (hfamily : c.code.family? = some family) : family ∈ s.families := by
  cases s with
  | null | array _ | record _ => cases hscalar
  | date | timeMillis | timeMicros | timestampMillis | timestampMicros | decimal _ _ =>
      exact mem_families_of_logical hscalar rfl hholds hfamily
  | boolean | int | long => exact Shape.mem_families_of_fits hscalar hholds hfamily
  | bytes =>
      have hown : accepts? Shape.bytes.required c = none := by
        simp [accepts?, Shape.required, Shape.logical?, hfile]
      rw [hown] at hholds
      exact Shape.mem_families_of_fits hscalar hholds hfamily
  | float =>
      have hcode : c.code ≠ binaryFloat := TypeCode.ne_of_family? hfamily rfl
      have hown : accepts? Shape.float.required c = none := by
        simp [accepts?, Shape.required, Shape.logical?, hcode]
      rw [hown] at hholds
      exact Shape.mem_families_of_fits hscalar hholds hfamily
  | double =>
      obtain ⟨hnumeric, hname⟩ := hdouble rfl
      have hcode : c.code ≠ binaryDouble := TypeCode.ne_of_family? hfamily rfl
      have hown : accepts? Shape.double.required c = none := by
        simp [accepts?, Shape.required, Shape.logical?, hcode, hname, isBareNumber, hnumeric]
      rw [hown] at hholds
      exact Shape.mem_families_of_fits hscalar hholds hfamily
  | string =>
      cases hlong : isLong c.typeName with
      | true =>
          rw [miswrites, hlong, Bool.true_and] at hkept
          rw [Family.eq_of_any_ne hkept hfamily]
          exact List.mem_singleton.2 rfl
      | false =>
          have hown : accepts? Shape.string.required c = none := by
            simp [accepts?, Shape.required, Shape.logical?, hstring rfl, hlong]
          rw [hown] at hholds
          exact Shape.mem_families_of_fits hscalar hholds hfamily

theorem exists_writes_double {x : Binary64} (hnumeric : c.code.is .numeric = false)
    (hfile : c.code ≠ externalFile)
    (hholds : (accepts? Shape.double.required c).getD (Shape.double.fits c) = true)
    (hkept : miswrites .double c = false)
    (hnone : ∀ name ordinal, (Vendor.oracle.write? name (c.columnType ordinal) (.double x) :
      Option (ParamM Statement Unit)) = none) : ∃ p, c.Writes .oracle .double (.double x) p := by
  have hv : (Value.double x).HasShape .double := rfl
  have hroom : c.HasRoom (.double x) := fun family _ => by cases family <;> trivial
  cases hname : isFloatNumber c.typeName with
  | false =>
      apply Column.exists_writes rfl _ hv trivial hroom hnone
      intro family
      apply mem_families rfl hfile hholds hkept
      · exact fun h => nomatch h
      · exact fun _ => ⟨hnumeric, hname⟩
  | true =>
      rw [miswrites, hname, hnumeric, Bool.not_false, Bool.true_and, Bool.true_and] at hkept
      cases hfamily : c.code.family? with
      | none =>
          apply Column.exists_writes rfl _ hv trivial hroom hnone
          intro family hsome
          rw [hfamily] at hsome
          cases hsome
      | some family =>
          rw [hfamily] at hkept
          have hwide : family = .float ∨ family = .double := by
            cases family <;> first | exact .inl rfl | exact .inr rfl | cases hkept
          refine ⟨.f64 x, .of_family hfamily rfl hnone ?_⟩
          rcases hwide with rfl | rfl
          all_goals exact fun _ _ _ => rfl

theorem exists_writes (hscalar : s.isScalar = true) (hfile : c.code ≠ externalFile)
    (hholds : (accepts? s.required c).getD (s.fits c) = true) (hv : v.HasShape s)
    (hdecodes : v.Decodes s) (hkept : miswrites s c = false) (hroom : c.HasRoom v) :
    ∃ p, c.Writes .oracle s v p := by
  cases v with
  | null => cases hv.isNull_eq hscalar
  | string text =>
      cases htext : isTextCode c.code with
      | true =>
          refine ⟨.object c.typeName text, .of_answered rfl fun name ordinal => ?_⟩
          exact (if_neg hfile).trans (if_pos htext)
      | false =>
          have hother : ¬isTextCode c.code = true := by simp [htext]
          apply Column.exists_writes hscalar _ hv hdecodes hroom
          · intro name ordinal
            exact (if_neg hfile).trans (if_neg hother)
          · intro family
            apply mem_families hscalar hfile hholds hkept fun _ => htext
            rintro rfl
            cases hv
  | double x =>
      cases hnumeric : c.code.is .numeric with
      | true =>
          refine ⟨.f64 x, .of_answered rfl fun name ordinal => ?_⟩
          exact (if_neg hfile).trans (if_pos hnumeric)
      | false =>
          have hother : ¬c.code.is .numeric = true := by simp [hnumeric]
          obtain rfl := hv.shape_eq_double
          apply exists_writes_double hnumeric hfile hholds hkept
          intro name ordinal
          exact (if_neg hfile).trans (if_neg hother)
  | float x =>
      cases hnumeric : c.code.is .numeric with
      | true =>
          refine ⟨.f64 x.widen, .of_answered rfl fun name ordinal => ?_⟩
          exact (if_neg hfile).trans (if_pos hnumeric)
      | false =>
          have hother : ¬c.code.is .numeric = true := by simp [hnumeric]
          apply Column.exists_writes hscalar _ hv hdecodes hroom
          · intro name ordinal
            exact (if_neg hfile).trans (if_neg hother)
          · intro family
            apply mem_families hscalar hfile hholds hkept
            · rintro rfl
              cases hv
            · rintro rfl
              cases hv
  | boolean _ | int _ | long _ | bytes _ | decimal _ | array _ | record _ =>
      apply Column.exists_writes hscalar _ hv hdecodes hroom
      · intro name ordinal
        exact if_neg hfile
      · intro family
        apply mem_families hscalar hfile hholds hkept
        · rintro rfl
          cases hv
        · rintro rfl
          cases hv

end Oracle

namespace MySql

def miswrites (s : Shape) (c : Column) : Bool :=
  match s with
  | .decimal .. => c.code.is .bigInt && !isUnsignedName c.typeName
  | _ => false

def HasRoom (c : Column) (v : Value) : Prop :=
  match v with
  | .int n => isYear c.typeName = false →
      match unsignedMax? (c.columnType 0) with
      | some max => 0 ≤ n.toInt ∧ n.toInt ≤ max
      | none => c.HasRoom (.int n)
  | .long n => ∀ max, unsignedMax? (c.columnType 0) = some max → 0 ≤ n.toInt ∧ n.toInt ≤ max
  | .decimal d => isUnsignedBigInt c.code c.typeName = true → d.negative = false ∧ d.isWhole = true
  | v => c.HasRoom v

theorem mem_families (hscalar : s.isScalar = true)
    (hholds : (accepts? s.required c).getD (s.fits c) = true) (hown : accepts? s.required c = none)
    (family : Family) (hfamily : c.code.family? = some family) : family ∈ s.families := by
  rw [hown] at hholds
  exact Shape.mem_families_of_fits hscalar hholds hfamily

theorem accepts?_of_int (hs : s.physical = .int) (hyear : isYear c.typeName = false)
    (hinteger : c.code.standard? ≠ some .integer) : accepts? s.required c = none := by
  simp [accepts?, Shape.required, hs, hyear, hinteger]

theorem exists_writes_int {n : Int32} (hscalar : s.isScalar = true)
    (hholds : (accepts? s.required c).getD (s.fits c) = true) (hv : (Value.int n).HasShape s)
    (hdecodes : (Value.int n).Decodes s) (hroom : HasRoom c (.int n)) :
    ∃ p, c.Writes .mysql s (.int n) p := by
  cases hyear : isYear c.typeName with
  | true =>
      refine ⟨.i32 n, .of_answered rfl fun name ordinal => ?_⟩
      exact if_pos hyear
  | false =>
      have hother : ¬isYear c.typeName = true := by simp [hyear]
      have hbound := hroom hyear
      have hwrite (name ordinal) : (Vendor.mysql.write? name (c.columnType ordinal) (.int n) :
          Option (ParamM Statement Unit)) =
          (unsignedMax? (c.columnType 0)).map fun max => (do
            checkUnsigned name (c.columnType ordinal) n.toInt max
            (c.columnType ordinal).bind (.i32 n)) := if_neg hother
      cases hmax : unsignedMax? (c.columnType 0) with
      | some max =>
          rw [hmax] at hbound
          refine ⟨.i32 n, .of_answered rfl fun name ordinal => ?_⟩
          rw [hwrite, hmax, Option.map_some, checkUnsigned, if_pos hbound]
          rfl
      | none =>
          rw [hmax] at hbound
          have hnone (name ordinal) : (Vendor.mysql.write? name (c.columnType ordinal) (.int n) :
              Option (ParamM Statement Unit)) = none := by
            rw [hwrite, hmax, Option.map_none]
          by_cases hinteger : c.code.standard? = some .integer
          · exact ⟨.i32 n, .of_family (family?_of_standard? hinteger) rfl hnone fun _ _ _ => rfl⟩
          · have hphysical := Shape.physical_of_storage? (Value.hasShape_iff.1 hv).symm
            have hown := accepts?_of_int hphysical hyear hinteger
            exact Column.exists_writes hscalar (mem_families hscalar hholds hown) hv hdecodes hbound
              hnone

theorem exists_writes_long {n : Int64} (hscalar : s.isScalar = true)
    (hholds : (accepts? s.required c).getD (s.fits c) = true) (hv : (Value.long n).HasShape s)
    (hdecodes : (Value.long n).Decodes s) (hroom : HasRoom c (.long n)) :
    ∃ p, c.Writes .mysql s (.long n) p := by
  have hwrite (name ordinal) : (Vendor.mysql.write? name (c.columnType ordinal) (.long n) :
      Option (ParamM Statement Unit)) =
      (unsignedMax? (c.columnType 0)).map fun max => (do
        checkUnsigned name (c.columnType ordinal) n.toInt max
        (c.columnType ordinal).bind (.i64 n)) := rfl
  cases hmax : unsignedMax? (c.columnType 0) with
  | some max =>
      have hbound := hroom max hmax
      refine ⟨.i64 n, .of_answered rfl fun name ordinal => ?_⟩
      rw [hwrite, hmax, Option.map_some, checkUnsigned, if_pos hbound]
      rfl
  | none =>
      have hphysical := Shape.physical_of_storage? (Value.hasShape_iff.1 hv).symm
      have hown : accepts? s.required c = none := by
        simp [accepts?, Shape.required, hphysical]
      apply Column.exists_writes hscalar (mem_families hscalar hholds hown) hv hdecodes
      · intro family _
        cases family <;> trivial
      · intro name ordinal
        rw [hwrite, hmax, Option.map_none]

theorem exists_writes_decimal {d : Decimal} (hscalar : s.isScalar = true)
    (hholds : (accepts? s.required c).getD (s.fits c) = true) (hv : (Value.decimal d).HasShape s)
    (hdecodes : (Value.decimal d).Decodes s) (hkept : miswrites s c = false)
    (hroom : HasRoom c (.decimal d)) : ∃ p, c.Writes .mysql s (.decimal d) p := by
  obtain ⟨precision, scale, rfl⟩ := hv.shape_eq_decimal
  cases hbig : isUnsignedBigInt c.code c.typeName with
  | true =>
      obtain ⟨hpositive, hwhole⟩ := hroom hbig
      have hkeeps : ¬(d.negative || !d.isWhole) = true := by simp [hpositive, hwhole]
      refine ⟨.decimal d, .of_answered rfl fun name ordinal => ?_⟩
      exact (if_pos hbig).trans (if_neg hkeeps)
  | false =>
      have hother : ¬isUnsignedBigInt c.code c.typeName = true := by simp [hbig]
      have hcode : c.code.standard? ≠ some .bigInt := by
        intro hcode
        rw [miswrites, TypeCode.is_iff.2 hcode, Bool.true_and] at hkept
        rw [isUnsignedBigInt, TypeCode.is_iff.2 hcode, Bool.true_and] at hbig
        rw [hbig] at hkept
        cases hkept
      have hown : accepts? (Shape.decimal precision scale).required c = none := by
        simp [accepts?, Shape.required, Shape.physical, Shape.logical?, hcode]
      apply Column.exists_writes hscalar (mem_families hscalar hholds hown) hv hdecodes
      · intro family _
        cases family <;> trivial
      · intro name ordinal
        exact if_neg hother

theorem exists_writes (hscalar : s.isScalar = true)
    (hholds : (accepts? s.required c).getD (s.fits c) = true) (hv : v.HasShape s)
    (hdecodes : v.Decodes s) (hkept : miswrites s c = false) (hroom : HasRoom c v) :
    ∃ p, c.Writes .mysql s v p := by
  have hphysical {k : Physical} (hk : v.physical? = some k) : s.physical = k :=
    Shape.physical_of_storage? ((Value.hasShape_iff.1 hv).symm.trans hk)
  cases v with
  | int n => exact exists_writes_int hscalar hholds hv hdecodes hroom
  | long n => exact exists_writes_long hscalar hholds hv hdecodes hroom
  | decimal d => exact exists_writes_decimal hscalar hholds hv hdecodes hkept hroom
  | boolean b =>
      by_cases htiny : c.code.is .tinyInt = true
      · refine ⟨.i16 (if b then 1 else 0), .of_answered rfl fun name ordinal => ?_⟩
        exact if_pos htiny
      · have hcode := mt TypeCode.is_iff.2 htiny
        have hown : accepts? s.required c = none := by
          simp [accepts?, Shape.required, hphysical rfl, hcode]
        apply Column.exists_writes hscalar (mem_families hscalar hholds hown) hv hdecodes hroom
        intro name ordinal
        exact if_neg htiny
  | bytes b =>
      obtain rfl := hv.shape_eq_bytes
      by_cases hbit : c.code.is .bit = true
      · refine ⟨.bytes b, .of_answered rfl fun name ordinal => ?_⟩
        exact if_pos hbit
      · have hnone (name ordinal) : (Vendor.mysql.write? name (c.columnType ordinal) (.bytes b) :
            Option (ParamM Statement Unit)) = none := if_neg hbit
        have hcode := mt TypeCode.is_iff.2 hbit
        by_cases hbig : c.code.standard? = some .bigInt ∧ isUnsigned c = true
        · have hown : accepts? Shape.bytes.required c = some false := by
            simp [accepts?, Shape.required, Shape.physical, Shape.decimalScale?, hbig]
          rw [hown] at hholds
          cases hholds
        · have hown : accepts? Shape.bytes.required c = none := by
            by_cases hword : c.code.standard? = some .bigInt
            · have hsigned : isUnsigned c = false := by simpa [hword] using hbig
              simp [accepts?, Shape.required, Shape.physical, hword, hsigned]
            · simp [accepts?, Shape.required, Shape.physical, hcode, hword]
          exact Column.exists_writes hscalar (mem_families hscalar hholds hown) hv hdecodes hroom
            hnone
  | null | float _ | double _ | string _ | array _ | record _ =>
      have hown : accepts? s.required c = none := by
        simp [accepts?, Shape.required, hphysical rfl]
      exact Column.exists_writes hscalar (mem_families hscalar hholds hown) hv hdecodes hroom
        fun _ _ => rfl

end MySql

namespace Vendor

/-- The column has room for the value: numbers within the bounds that the dialect checks, and the
texts of numbers and moments where these are written as texts. -/
def HasRoom (vendor : Vendor) (c : Column) (v : Value) : Prop :=
  match vendor with
  | mysql => MySql.HasRoom c v
  | postgres => Postgres.HasRoom c v
  | sqlServer => SqlServer.HasRoom c v
  | generic | oracle | db2 => c.HasRoom v

/-- The columns that only their name, or their flag, makes hold the shape, and whose type code is
of a family that writes other values. -/
def miswrites (vendor : Vendor) (s : Shape) (c : Column) : Bool :=
  match vendor, s with
  | mysql, s => MySql.miswrites s c
  | oracle, s => Oracle.miswrites s c
  | sqlServer, .bytes => SqlServer.misreads c
  | db2, .string => Db2.misreads c
  | _, _ => false

theorem exists_writes {vendor : Vendor} (hscalar : s.isScalar = true)
    (hholds : (vendor.accepts? s.required c).getD (s.fits c) = true)
    (hfile : vendor = .oracle → c.code ≠ Oracle.externalFile)
    (hkept : vendor.miswrites s c = false) (hv : v.HasShape s) (hdecodes : v.Decodes s)
    (hroom : vendor.HasRoom c v) : ∃ p, c.Writes vendor s v p := by
  cases vendor with
  | generic =>
      exact Column.exists_writes_of_fits hscalar hholds hv hdecodes hroom fun _ _ => rfl
  | mysql => exact MySql.exists_writes hscalar hholds hv hdecodes hkept hroom
  | postgres => exact Postgres.exists_writes hscalar hholds hv hdecodes hroom
  | oracle => exact Oracle.exists_writes hscalar (hfile rfl) hholds hv hdecodes hkept hroom
  | sqlServer =>
      apply SqlServer.exists_writes hscalar hholds hv hdecodes _ hroom
      rintro rfl
      exact hkept
  | db2 =>
      apply Db2.exists_writes hscalar hholds hv hdecodes _ hroom
      rintro rfl
      exact hkept

end Vendor

def Shape.hasParts : Shape → Bool
  | .array _ | .record _ => true
  | _ => false

theorem Shape.eq_of_hasParts (h : s.hasParts = true) :
    (∃ items, s = .array items) ∨ ∃ fields, s = .record fields := by
  cases s with
  | array items => exact .inl ⟨items, rfl⟩
  | record fields => exact .inr ⟨fields, rfl⟩
  | null | boolean | int | long | float | double | bytes | string | date | timeMillis
  | timeMicros | timestampMillis | timestampMicros | decimal _ _ => cases h

theorem Value.HasShape.eq_of_hasParts (h : v.HasShape s) (hparts : s.hasParts = true) :
    (∃ items, v = .array items) ∨ ∃ r, v = .record r := by
  have hstored := Value.hasShape_iff.1 h
  obtain ⟨items, rfl⟩ | ⟨fields, rfl⟩ := Shape.eq_of_hasParts hparts
  · cases v <;> cases hstored
    exact .inl ⟨_, rfl⟩
  · cases v <;> cases hstored
    exact .inr ⟨_, rfl⟩

/-- The columns of the two types that hold arrays and records. -/
def Column.HasParts (c : Column) : Prop :=
  c.code.standard? = some .array ∨ c.code.standard? = some .struct

theorem Column.HasParts.family?_eq (h : c.HasParts) : c.code.family? = none := by
  rw [TypeCode.family?]
  rcases h with h | h
  all_goals
    rw [h]
    rfl

theorem Column.HasParts.code_ne (h : c.HasParts) {code : TypeCode} (hcode : code.standard? = none) :
    c.code ≠ code := by
  rintro rfl
  rcases h with h | h
  all_goals
    rw [hcode] at h
    cases h

section

variable {vendor : Vendor}

theorem Vendor.accepts?_of_hasParts (hparts : s.hasParts = true) :
    vendor.accepts? s.required c = none := by
  obtain ⟨items, rfl⟩ | ⟨fields, rfl⟩ := Shape.eq_of_hasParts hparts
  all_goals
    cases vendor with
    | mysql => simp [accepts?, MySql.accepts?, Shape.required, Shape.physical]
    | generic | postgres | oracle | sqlServer | db2 => rfl

theorem Column.hasParts_of_holds (hparts : s.hasParts = true)
    (hholds : (vendor.accepts? s.required c).getD (s.fits c) = true) : c.HasParts := by
  rw [Vendor.accepts?_of_hasParts hparts, Option.getD_none] at hholds
  obtain ⟨items, rfl⟩ | ⟨fields, rfl⟩ := Shape.eq_of_hasParts hparts
  · exact .inl (TypeCode.is_iff.1 hholds)
  · exact .inr (TypeCode.is_iff.1 hholds)

theorem Vendor.read?_of_hasParts (hparts : s.hasParts = true) (hcolumn : c.HasParts)
    (hyear : vendor = .mysql → MySql.isYear c.typeName = false) (cur : Cursor) (ordinal : Nat) :
    vendor.read? cur s (c.columnType ordinal) = none := by
  have hlocal : c.code ≠ Oracle.localTimestamp := hcolumn.code_ne rfl
  have hfile : c.code ≠ Oracle.externalFile := hcolumn.code_ne rfl
  obtain ⟨items, rfl⟩ | ⟨fields, rfl⟩ := Shape.eq_of_hasParts hparts
  all_goals
    cases vendor with
    | generic | postgres | sqlServer | db2 => rfl
    | mysql => exact MySql.year?_of_not_isYear (hyear rfl)
    | oracle => exact (if_neg hlocal).trans (if_neg hfile)

theorem Vendor.write?_of_hasParts {σ : Type} [ParamTarget σ] (hparts : s.hasParts = true)
    (hcolumn : c.HasParts) (hv : v.HasShape s) (name : String) (ordinal : Nat) :
    (vendor.write? name (c.columnType ordinal) v : Option (ParamM σ Unit)) = none := by
  have hfile : c.code ≠ Oracle.externalFile := hcolumn.code_ne rfl
  obtain ⟨items, rfl⟩ | ⟨r, rfl⟩ := hv.eq_of_hasParts hparts
  all_goals
    cases vendor with
    | generic | mysql | postgres | sqlServer | db2 => rfl
    | oracle => exact if_neg hfile

namespace Field

variable {f : Field}

theorem read_of_hasParts (hparts : f.type.shape.hasParts = true) (hcolumn : c.HasParts)
    (hyear : vendor = .mysql → MySql.isYear c.typeName = false) (cur : Cursor) (ordinal : Nat) :
    f.read vendor cur (c.columnType ordinal) =
      .error (.conversion f.name (.noReader c.typeName c.name f.type.shape.displayName)) := by
  have hfamily : (c.columnType ordinal).code.family? = none := hcolumn.family?_eq
  rw [read, Vendor.read?_of_hasParts hparts hcolumn hyear, Option.getD_none, readGeneric, hfamily,
    Option.none_or]
  obtain ⟨items, hs⟩ | ⟨fields, hs⟩ := Shape.eq_of_hasParts hparts
  all_goals
    rw [hs]
    rfl

theorem write_of_hasParts {σ : Type} [ParamTarget σ] (hparts : f.type.shape.hasParts = true)
    (hcolumn : c.HasParts) (hv : v.HasShape f.type.shape) (ordinal : Nat) :
    (f.write vendor (c.columnType ordinal) v : ParamM σ Unit) =
      throw (.conversion f.name (.unwritable v.kind c.typeName c.name)) := by
  have hfamily : (c.columnType ordinal).code.family? = none := hcolumn.family?_eq
  have hnone : (vendor.write? f.name (c.columnType ordinal) v : Option (ParamM σ Unit)) = none :=
    Vendor.write?_of_hasParts hparts hcolumn hv f.name ordinal
  have hwritten : f.type.shape.writtenFamily? = none := by
    obtain ⟨items, hs⟩ | ⟨fields, hs⟩ := Shape.eq_of_hasParts hparts
    all_goals
      rw [hs]
      rfl
  obtain ⟨items, rfl⟩ | ⟨r, rfl⟩ := hv.eq_of_hasParts hparts
  all_goals
    rw [write_of_unanswered rfl hnone, writeGeneric, hfamily, hwritten]
    rfl

end Field

end

namespace Column

variable {vendor : Vendor} {t : UniversalType}

/-- A field of a type that its column is said to hold. If the type has no parts, reading never
fails for want of a reader, and each value of the type that the column has room for is written as
one parameter; external files, and columns that only their name or flag makes hold the type, are
left out there. Arrays and records have no reader, and none of their values is written. -/
theorem marshals_of_isCompatible (hcompatible : t.isCompatible vendor c = true) :
    (t.shape.isScalar = true →
      (∀ name ordinal cur, HasReader (Field.read vendor ⟨name, t⟩ cur (c.columnType ordinal))) ∧
      ((vendor = .oracle → c.code ≠ Oracle.externalFile) →
        vendor.miswrites t.shape c = false → ∀ v : Value, v.HasShape t.shape →
        v.Decodes t.shape → vendor.HasRoom c v → ∃ p, ∀ name ordinal, ordinal ≠ 0 →
          ∀ statement : Statement,
            (Field.write vendor ⟨name, t⟩ (c.columnType ordinal) v).runOn statement =
              (.ok (), { statement with params := statement.params ++ [⟨ordinal, p⟩] }))) ∧
    (t.shape.hasParts = true →
      ((vendor = .mysql → MySql.isYear c.typeName = false) → ∀ name ordinal cur,
        Field.read vendor ⟨name, t⟩ cur (c.columnType ordinal) =
          .error (.conversion name (.noReader c.typeName c.name t.shape.displayName))) ∧
      ∀ v : Value, v.HasShape t.shape → ∀ name ordinal, ∀ statement : Statement,
        (Field.write vendor ⟨name, t⟩ (c.columnType ordinal) v).runOn statement =
          (.error (.conversion name (.unwritable v.kind c.typeName c.name)), statement)) := by
  have hholds : (vendor.accepts? t.shape.required c).getD (t.shape.fits c) = true := hcompatible
  constructor
  · intro hscalar
    constructor
    · intro name ordinal cur
      exact Field.read_hasReader hscalar
    · intro hfile hkept v hv hdecodes hroom
      obtain ⟨p, hp⟩ := Vendor.exists_writes hscalar hholds hfile hkept hv hdecodes hroom
      exact ⟨p, fun name ordinal hordinal => hp.runOn rfl hordinal⟩
  · intro hparts
    have hcolumn := hasParts_of_holds hparts hholds
    constructor
    · intro hyear name ordinal cur
      exact Field.read_of_hasParts (f := ⟨name, t⟩) hparts hcolumn hyear cur ordinal
    · intro v hv name ordinal statement
      rw [Field.write_of_hasParts (f := ⟨name, t⟩) hparts hcolumn hv]
      rfl

theorem marshals_largest_tinyint :
    UniversalType.isCompatible .sqlServer ⟨.int, false⟩
        { name := "AGE", code := StandardType.tinyInt.code, typeName := "tinyint" } = true ∧
      (∀ name ordinal cur, HasReader (Field.read .sqlServer ⟨name, ⟨.int, false⟩⟩ cur
        (columnType { name := "AGE", code := StandardType.tinyInt.code, typeName := "tinyint" }
          ordinal))) ∧
      ∃ p, ∀ name ordinal, ordinal ≠ 0 → ∀ statement : Statement,
        (Field.write .sqlServer ⟨name, ⟨.int, false⟩⟩
          (columnType { name := "AGE", code := StandardType.tinyInt.code, typeName := "tinyint" }
            ordinal) (.int 255)).runOn statement =
          (.ok (), { statement with params := statement.params ++ [⟨ordinal, p⟩] }) := by
  have hcompatible : UniversalType.isCompatible .sqlServer ⟨.int, false⟩
      { name := "AGE", code := StandardType.tinyInt.code, typeName := "tinyint" } = true := rfl
  obtain ⟨hscalar, -⟩ := marshals_of_isCompatible hcompatible
  obtain ⟨hread, hwrite⟩ := hscalar rfl
  refine ⟨hcompatible, hread, hwrite ?_ rfl (.int 255) rfl trivial ?_⟩
  · exact fun h => nomatch h
  · exact ⟨by decide, by decide⟩

/-- An array is said to be held by a column of arrays; not even a NULL is read, and not even an
empty array is written. -/
theorem array_not_marshalled :
    UniversalType.isCompatible .generic ⟨.array ⟨.string, false⟩, false⟩
        { name := "TAGS", code := StandardType.array.code, typeName := "ARRAY" } = true ∧
      Field.read .generic ⟨"TAGS", ⟨.array ⟨.string, false⟩, false⟩⟩
          (.single [] [.null .other])
          (columnType { name := "TAGS", code := StandardType.array.code, typeName := "ARRAY" } 1) =
        .error (.conversion "TAGS" (.noReader "ARRAY" "TAGS" "array<string>")) ∧
      (Field.write .generic ⟨"TAGS", ⟨.array ⟨.string, false⟩, false⟩⟩
          (columnType { name := "TAGS", code := StandardType.array.code, typeName := "ARRAY" } 1)
          (.array [])).runOn ({} : Statement) =
        (.error (.conversion "TAGS" (.unwritable "array" "ARRAY" "TAGS")), {}) :=
  ⟨rfl, rfl, rfl⟩

end Column

end TableTransfer
