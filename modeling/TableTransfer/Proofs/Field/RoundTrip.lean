import TableTransfer.FieldReader
import TableTransfer.FieldWriter
import TableTransfer.Memory.Statement
import TableTransfer.Proofs.Binary.Widen
import TableTransfer.Proofs.Cursor.Read
import TableTransfer.Proofs.Value.Conforms
import TableTransfer.Proofs.Value.TimeOfDay
import TableTransfer.Validation

namespace TableTransfer

namespace SqlValue

theorem asInt32?_i32 (n : Int32) : (i32 n).asInt32? = some n := by
  have hword : (i32 n).asInt64? = some n.toInt64 := int64?_eq_some_iff.2 n.toInt_toInt64
  rw [asInt32?, hword]
  exact int32?_eq_some_iff.2 n.toInt_toInt64.symm

theorem asInt32?_i16 {n : Int32} (h : -32768 ≤ n.toInt ∧ n.toInt ≤ 32767) :
    (i16 (Int16.ofInt n.toInt)).asInt32? = some n := by
  have hn : (Int16.ofInt n.toInt).toInt = n.toInt :=
    Int16.toInt_ofInt_of_le h.1 (Int.lt_add_one_of_le h.2)
  have hword : (i16 (Int16.ofInt n.toInt)).asInt64? = some n.toInt64 :=
    int64?_eq_some_iff.2 (n.toInt_toInt64.trans hn.symm)
  rw [asInt32?, hword]
  exact int32?_eq_some_iff.2 n.toInt_toInt64.symm

end SqlValue

def Shape.families : Shape → List Family
  | .boolean => [.boolean]
  | .int => [.tinyInt, .smallInt, .integer]
  | .long => [.integer, .bigInt]
  | .float => [.real, .float]
  | .double => [.double]
  | .bytes => [.binary]
  | .string => [.text]
  | .date => [.date]
  | .timeMillis | .timeMicros => [.time]
  | .timestampMillis | .timestampMicros => [.timestamp, .zonedTimestamp]
  | .decimal .. => [.numeric]
  | .null | .array _ | .record _ => []

theorem Shape.mem_families {s : Shape} {c : Column} {family : Family} (hs : s ≠ .null)
    (hfits : s.fits c = true) (hfamily : c.code.family? = some family) : family ∈ s.families := by
  cases s with
  | null => exact absurd rfl hs
  | array _ | record _ =>
      rw [TypeCode.family?, TypeCode.is_iff.1 hfits] at hfamily
      cases hfamily
  | boolean | int | long | float | double | bytes | string | date | timeMillis | timeMicros
  | timestampMillis | timestampMicros | decimal _ _ =>
      cases family <;>
        simp_all [Shape.fits, Shape.families, TypeCode.isBinary, TypeCode.isText]

namespace Family

/-- A column of small words takes the numbers that they hold; every other column takes any value. -/
def HasRoom (family : Family) (v : Value) : Prop :=
  match family, v with
  | tinyInt, .int n => -128 ≤ n.toInt ∧ n.toInt ≤ 127
  | smallInt, .int n => -32768 ≤ n.toInt ∧ n.toInt ≤ 32767
  | _, _ => True

/-- The family writes a parameter for the value that it reads as the same value. -/
def RoundTrips (family : Family) (f : Field) (c : ColumnType) (v : Value) : Prop :=
  ∃ p, family.write f c v = .ok p ∧
    ∀ cur : Cursor, cur.value c.ordinal = .ok p →
      ∃ w, family.read cur f c.ordinal = .ok w ∧ w.Same v

section

variable {family : Family} {f : Field} {c : ColumnType} {v : Value}

theorem RoundTrips.of_getter {α : Type} {p : SqlValue} {a : α} (wanted : String)
    (convert : SqlValue → Option α) (make : α → Value)
    (hread : ∀ cur : Cursor, family.read cur f c.ordinal =
      Value.ofRead make (cur.read c.ordinal wanted convert))
    (hwrite : family.write f c v = .ok p) (hnull : p.isNull = false)
    (hconvert : convert p = some a) (hsame : (make a).Same v) : family.RoundTrips f c v := by
  refine ⟨p, hwrite, fun cur hp => ⟨make a, ?_, hsame⟩⟩
  rw [hread, Cursor.read_of_value hp hnull hconvert]
  rfl

theorem roundTrips_numeric {d : Decimal} {precision scale : Nat} {name : String} {nullable : Bool}
    (h : d.FitsScale scale) :
    numeric.RoundTrips ⟨name, ⟨.decimal precision scale, nullable⟩⟩ c (.decimal d) := by
  obtain ⟨hrescale, hsame⟩ := h.rescaleExact?
  refine ⟨.decimal d, rfl, fun cur hp => ⟨.decimal (d.rescaleHalfEven scale), ?_, .decimal hsame⟩⟩
  have hconvert : (SqlValue.decimal d).asDecimal? = some d := rfl
  have hread : cur.decimal c.ordinal = .ok (some d) := Cursor.read_of_value hp rfl hconvert _
  change (cur.decimal c.ordinal >>= _) = _
  rw [hread]
  change Decimal.atScale name scale d = _
  rw [Decimal.atScale, hrescale]

theorem writeSmall_eq {n : Int32} {low high : Int} (h : low ≤ n.toInt ∧ n.toInt ≤ high) :
    writeSmall f c n low high = .ok (.i16 (Int16.ofInt n.toInt)) := if_pos h

theorem same_narrow_widen (x : Binary32) : (Value.float x.widen.narrow).Same (.float x) := by
  cases hnan : x.isNaN with
  | true => exact .notANumber (Binary32.isNaN_narrow_widen hnan) hnan
  | false => exact .of_eq (congrArg Value.float (Binary32.narrow_widen hnan))

theorem write_date {d : Date} (h : v.asDate? = some d) : date.write f c v = .ok (.date d) := by
  simp only [write, h]

theorem write_time {t : Time} (h : v.asTime? = some t) : time.write f c v = .ok (.time t) := by
  simp only [write, h]

theorem write_timestamp {t : Timestamp} (h : v.asTimestamp? f.type.shape.timeUnit = some t) :
    timestamp.write f c v = .ok (.timestamp t) := by
  simp only [write, h]

theorem write_zonedTimestamp {t : Timestamp} (h : v.asTimestamp? f.type.shape.timeUnit = some t) :
    zonedTimestamp.write f c v = .ok (.zonedTimestamp (.ofUtc t)) := by
  simp only [write, h]

theorem roundTrips_moment {t : Timestamp} (hfamily : family ∈ [timestamp, zonedTimestamp])
    (h : v.asTimestamp? f.type.shape.timeUnit = some t) : family.RoundTrips f c v := by
  have hsame := Value.ofTimestamp_of_asTimestamp? h
  obtain rfl | hfamily := List.mem_cons.1 hfamily
  · exact .of_getter _ SqlValue.asTimestamp? (Value.ofTimestamp f.type.shape.timeUnit)
      (fun _ => rfl) (write_timestamp h) rfl rfl (.of_eq hsame)
  · obtain rfl := List.mem_singleton.1 hfamily
    exact .of_getter _ SqlValue.asZonedTimestamp?
      (fun t => Value.ofTimestamp f.type.shape.timeUnit t.utc)
      (fun _ => rfl) (write_zonedTimestamp h) rfl rfl (.of_eq hsame)

/-- Every family whose columns hold the shape reads what it has written. -/
theorem roundTrips (hfamily : family ∈ f.type.shape.families) (hv : v.Conforms f.type.shape)
    (hroom : family.HasRoom v) : family.RoundTrips f c v := by
  obtain ⟨name, shape, nullable⟩ := f
  -- By the shape: it fixes the unit and width that the family reads in.
  cases hv with
  | boolean b =>
      obtain rfl := List.mem_singleton.1 hfamily
      exact .of_getter _ _ _ (fun _ => rfl) rfl rfl rfl (.refl _)
  | int n =>
      obtain rfl | hfamily := List.mem_cons.1 hfamily
      · exact .of_getter _ _ _ (fun _ => rfl) (writeSmall_eq hroom) rfl
          (SqlValue.asInt32?_i16 ⟨le_trans (by decide) hroom.1, le_trans hroom.2 (by decide)⟩)
          (.refl _)
      obtain rfl | hfamily := List.mem_cons.1 hfamily
      · exact .of_getter _ _ _ (fun _ => rfl) (writeSmall_eq hroom) rfl
          (SqlValue.asInt32?_i16 hroom) (.refl _)
      obtain rfl := List.mem_singleton.1 hfamily
      exact .of_getter _ _ _ (fun _ => rfl) rfl rfl (SqlValue.asInt32?_i32 n) (.refl _)
  | long n =>
      obtain rfl | hfamily := List.mem_cons.1 hfamily
      · exact .of_getter _ _ _ (fun _ => rfl) rfl rfl rfl (.refl _)
      obtain rfl := List.mem_singleton.1 hfamily
      exact .of_getter _ _ _ (fun _ => rfl) rfl rfl rfl (.refl _)
  | float x =>
      obtain rfl | hfamily := List.mem_cons.1 hfamily
      · exact .of_getter _ _ _ (fun _ => rfl) rfl rfl rfl (.refl _)
      obtain rfl := List.mem_singleton.1 hfamily
      exact .of_getter _ _ _ (fun _ => rfl) rfl rfl rfl (same_narrow_widen x)
  | double x =>
      obtain rfl := List.mem_singleton.1 hfamily
      exact .of_getter _ _ _ (fun _ => rfl) rfl rfl rfl (.refl _)
  | bytes b =>
      obtain rfl := List.mem_singleton.1 hfamily
      exact .of_getter _ _ _ (fun _ => rfl) rfl rfl rfl (.refl _)
  | string s =>
      obtain rfl := List.mem_singleton.1 hfamily
      exact .of_getter _ _ _ (fun _ => rfl) rfl rfl rfl (.refl _)
  | date hdate =>
      obtain rfl := List.mem_singleton.1 hfamily
      exact .of_getter _ _ _ (fun _ => rfl) (write_date hdate) rfl rfl
        (.of_eq (Value.ofDate_of_asDate? hdate))
  | timeMillis h0 h =>
      obtain rfl := List.mem_singleton.1 hfamily
      obtain ⟨t, ht, hsame⟩ := (Value.decodesDay_int _).exists_time h0 h
      exact .of_getter _ _ _ (fun _ => rfl) (write_time ht) rfl rfl (.of_eq hsame)
  | timeMicros h0 h =>
      obtain rfl := List.mem_singleton.1 hfamily
      have hdecodes := Value.decodesDay_long (Value.not_wrapsToDay_of_lt h)
      obtain ⟨t, ht, hsame⟩ := hdecodes.exists_time h0 h
      exact .of_getter _ _ _ (fun _ => rfl) (write_time ht) rfl rfl (.of_eq hsame)
  | timestampMillis h => exact roundTrips_moment hfamily h
  | timestampMicros h => exact roundTrips_moment hfamily h
  | decimal h =>
      obtain rfl := List.mem_singleton.1 hfamily
      exact roundTrips_numeric h

end

end Family

namespace Value

theorem Conforms.family {v : Value} {s : Shape} (h : v.Conforms s) :
    ∃ family, s.family? = some family ∧ s.writtenFamily?.or v.family? = some family ∧
      family ∈ s.families ∧ family.HasRoom v := by
  cases h <;> exact ⟨_, rfl, rfl, by simp [Shape.families], trivial⟩

end Value

namespace Field

variable {f : Field} {c : Column} {v : Value}

theorem exists_family (ordinal : Nat)
    (hcolumn : f.type.shape.fits c = true ∨ c.code.family? = none)
    (hv : v.Conforms f.type.shape)
    (hroom : ∀ family, c.code.family? = some family → family.HasRoom v) :
    ∃ family : Family, family.RoundTrips f (c.columnType ordinal) v ∧
      f.writeGeneric (c.columnType ordinal) v = family.write f (c.columnType ordinal) v ∧
      ∀ cur, f.readGeneric cur (c.columnType ordinal) = family.read cur f ordinal := by
  have hcode : (c.columnType ordinal).code = c.code := rfl
  cases hfamily : c.code.family? with
  | some family =>
      have hfits : f.type.shape.fits c = true := hcolumn.resolve_right (by simp [hfamily])
      have hmem := Shape.mem_families hv.ne_null hfits hfamily
      refine ⟨family, Family.roundTrips hmem hv (hroom family hfamily), ?_, fun cur => ?_⟩
      · rw [writeGeneric, hcode, hfamily]
        rfl
      · rw [readGeneric, hcode, hfamily]
        rfl
  | none =>
      obtain ⟨family, hread, hwritten, hmem, hroom⟩ := hv.family
      refine ⟨family, Family.roundTrips hmem hv hroom, ?_, fun cur => ?_⟩
      · rw [writeGeneric, hcode, hfamily, Option.none_or, hwritten]
      · rw [readGeneric, hcode, hfamily, Option.none_or, hread]
        rfl

/-- A value of the declared shape is bound once, at the parameter of its column, and is the value
that a row with this parameter in the column is read as. -/
theorem read_of_written {ordinal : Nat} (hordinal : ordinal ≠ 0)
    (hcolumn : f.type.shape.fits c = true ∨ c.code.family? = none)
    (hv : v.Conforms f.type.shape)
    (hroom : ∀ family, c.code.family? = some family → family.HasRoom v) :
    ∃ p, (∀ s : Statement, (f.write .generic (c.columnType ordinal) v).runOn s =
        (.ok (), { s with params := s.params ++ [⟨ordinal, p⟩] })) ∧
      ∀ cur : Cursor, cur.value ordinal = .ok p →
        ∃ w, f.read .generic cur (c.columnType ordinal) = .ok w ∧ w.Same v := by
  obtain ⟨family, ⟨p, hwrite, hback⟩, hwritten, hread⟩ := exists_family ordinal hcolumn hv hroom
  refine ⟨p, fun s => ?_, fun cur hp => ?_⟩
  · have hparam : f.plainParam (c.columnType ordinal) v = .ok p := by
      rw [plainParam, hv.isNull_eq, if_neg Bool.false_ne_true, hwritten, hwrite]
    have hwork : f.write .generic (c.columnType ordinal) v =
        (do (c.columnType ordinal).bind (← f.plainParam (c.columnType ordinal) v) :
          ParamM Statement Unit) := by
      rw [write, hv.isNull_eq]
      rfl
    rw [hwork, ParamM.runOn_bind, ParamM.runOn_lift, hparam]
    exact Statement.runOn_bind s hordinal
  · obtain ⟨w, hw, hsame⟩ := hback cur hp
    refine ⟨w, ?_, hsame⟩
    change (f.readGeneric cur (c.columnType ordinal)).bind _ = _
    rw [hread, show family.read cur f ordinal = .ok w from hw]
    change f.requireValue _ w = _
    rw [requireValue, hsame.isNull_eq, hv.isNull_eq]
    rfl

theorem read_of_written_tenth :
    ∃ p, (∀ s : Statement,
        (write .generic ⟨"SHARE", ⟨.float, false⟩⟩ ⟨"SHARE", "FLOAT", StandardType.float.code, 2⟩
          (.float ⟨0x3dcccccd⟩)).runOn s = (.ok (), { s with params := s.params ++ [⟨2, p⟩] })) ∧
      ∀ cur : Cursor, cur.value 2 = .ok p →
        ∃ w, read .generic ⟨"SHARE", ⟨.float, false⟩⟩ cur
          ⟨"SHARE", "FLOAT", StandardType.float.code, 2⟩ = .ok w ∧ w.Same (.float ⟨0x3dcccccd⟩) :=
  read_of_written
    (f := ⟨"SHARE", ⟨.float, false⟩⟩)
    (c := { name := "SHARE", code := StandardType.float.code, typeName := "FLOAT" })
    (by decide) (.inl rfl) (.float _) (by rintro _ ⟨⟩; trivial)

end Field

end TableTransfer
