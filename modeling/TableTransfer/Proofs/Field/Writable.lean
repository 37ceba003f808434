import TableTransfer.Proofs.Field.Binding
import TableTransfer.Proofs.Field.Readable
import TableTransfer.Proofs.Field.RoundTrip

namespace TableTransfer

/-- A number of days, or of parts of a second, is that of a date, a time or a moment. -/
def Value.Decodes (v : Value) (s : Shape) : Prop :=
  match s with
  | .date => ∃ d, v.asDate? = some d
  | .timeMillis | .timeMicros => ∃ t, v.asTime? = some t
  | .timestampMillis | .timestampMicros => ∃ t, v.asTimestamp? s.timeUnit = some t
  | _ => True

def Value.IsOf (v : Value) : Physical → Prop
  | .null => v = .null
  | .boolean => ∃ b, v = .boolean b
  | .int => ∃ n, v = .int n
  | .long => ∃ n, v = .long n
  | .float => ∃ x, v = .float x
  | .double => ∃ x, v = .double x
  | .bytes => ∃ b, v = .bytes b
  | .string => ∃ t, v = .string t
  | .array => ∃ items, v = .array items
  | .record => ∃ r, v = .record r

theorem Shape.mem_families_of_fits {s : Shape} {c : Column} {family : Family}
    (hscalar : s.isScalar = true) (hfits : s.fits c = true)
    (hfamily : c.code.family? = some family) : family ∈ s.families := by
  apply mem_families _ hfits hfamily
  rintro rfl
  cases hscalar

theorem Shape.physical_of_storage? {s : Shape} {k : Physical} (h : s.storage? = some k) :
    s.physical = k := by
  cases s <;> cases h <;> rfl

namespace Value.HasShape

variable {v : Value} {s : Shape}

theorem isOf (h : v.HasShape s) {k : Physical} (hs : s.storage? = some k) : v.IsOf k := by
  have hstored := Value.hasShape_iff.1 h
  rw [hs] at hstored
  cases v <;> cases hstored
  case null => rfl
  all_goals exact ⟨_, rfl⟩

theorem ne_string (h : v.HasShape s) (hs : s ≠ .string) (text : String) : v ≠ .string text := by
  rintro rfl
  have hstored := Value.hasShape_iff.1 h
  cases s <;> simp_all [Value.physical?, Shape.storage?, Shape.physical]

theorem shape_eq_double {x : Binary64} (h : (Value.double x).HasShape s) : s = .double := by
  have hstored := Value.hasShape_iff.1 h
  cases s <;> simp_all [Value.physical?, Shape.storage?, Shape.physical]

theorem shape_eq_bytes {b : List UInt8} (h : (Value.bytes b).HasShape s) : s = .bytes := by
  have hstored := Value.hasShape_iff.1 h
  cases s <;> simp_all [Value.physical?, Shape.storage?, Shape.physical]

theorem shape_eq_decimal {d : Decimal} (h : (Value.decimal d).HasShape s) :
    ∃ precision scale, s = .decimal precision scale := by
  have hstored := Value.hasShape_iff.1 h
  cases s <;> simp_all [Value.physical?, Shape.storage?, Shape.physical]

theorem isNull_eq (h : v.HasShape s) (hscalar : s.isScalar = true) : v.isNull = false := by
  have hstored := Value.hasShape_iff.1 h
  cases v with
  | null =>
      cases s <;>
        simp_all [Shape.isScalar, Value.physical?, Shape.storage?, Shape.physical]
  | boolean _ | int _ | long _ | float _ | double _ | bytes _ | string _ | decimal _ | array _
  | record _ => rfl

theorem family (h : v.HasShape s) (hscalar : s.isScalar = true) :
    ∃ family, s.writtenFamily?.or v.family? = some family ∧ family ∈ s.families ∧
      family.HasRoom v := by
  cases s with
  | null | array _ | record _ => cases hscalar
  | boolean =>
      obtain ⟨b, rfl⟩ := h.isOf rfl
      exact ⟨.boolean, rfl, by decide, trivial⟩
  | int =>
      obtain ⟨n, rfl⟩ := h.isOf rfl
      exact ⟨.integer, rfl, by simp [Shape.families], trivial⟩
  | long =>
      obtain ⟨n, rfl⟩ := h.isOf rfl
      exact ⟨.integer, rfl, by simp [Shape.families], trivial⟩
  | float =>
      obtain ⟨x, rfl⟩ := h.isOf rfl
      exact ⟨.real, rfl, by simp [Shape.families], trivial⟩
  | double =>
      obtain ⟨x, rfl⟩ := h.isOf rfl
      exact ⟨.double, rfl, by simp [Shape.families], trivial⟩
  | bytes =>
      obtain ⟨b, rfl⟩ := h.isOf rfl
      exact ⟨.binary, rfl, by simp [Shape.families], trivial⟩
  | string =>
      obtain ⟨t, rfl⟩ := h.isOf rfl
      exact ⟨.text, rfl, by simp [Shape.families], trivial⟩
  | date => exact ⟨.date, rfl, by simp [Shape.families], trivial⟩
  | timeMillis | timeMicros => exact ⟨.time, rfl, by simp [Shape.families], trivial⟩
  | timestampMillis | timestampMicros =>
      exact ⟨.timestamp, rfl, by simp [Shape.families], trivial⟩
  | decimal precision scale => exact ⟨.numeric, rfl, by simp [Shape.families], trivial⟩

end Value.HasShape

/-- Every family whose columns hold the shape writes the values that there is room for. -/
theorem Family.exists_write {family : Family} {s : Shape} {v : Value} (hfamily : family ∈ s.families)
    (hv : v.HasShape s) (hdecodes : v.Decodes s) (hroom : family.HasRoom v) :
    ∃ p, ∀ (f : Field) (c : ColumnType), f.type.shape = s → family.write f c v = .ok p := by
  cases s with
  | null | array _ | record _ => cases hfamily
  | boolean =>
      obtain ⟨b, rfl⟩ := hv.isOf rfl
      obtain rfl := List.mem_singleton.1 hfamily
      exact ⟨.bool b, fun _ _ _ => rfl⟩
  | int =>
      obtain ⟨n, rfl⟩ := hv.isOf rfl
      simp only [Shape.families, List.mem_cons, List.not_mem_nil, or_false] at hfamily
      rcases hfamily with rfl | rfl | rfl
      · exact ⟨_, fun _ _ _ => writeSmall_eq hroom⟩
      · exact ⟨_, fun _ _ _ => writeSmall_eq hroom⟩
      · exact ⟨.i32 n, fun _ _ _ => rfl⟩
  | long =>
      obtain ⟨n, rfl⟩ := hv.isOf rfl
      simp only [Shape.families, List.mem_cons, List.not_mem_nil, or_false] at hfamily
      rcases hfamily with rfl | rfl
      all_goals exact ⟨.i64 n, fun _ _ _ => rfl⟩
  | float =>
      obtain ⟨x, rfl⟩ := hv.isOf rfl
      simp only [Shape.families, List.mem_cons, List.not_mem_nil, or_false] at hfamily
      rcases hfamily with rfl | rfl
      · exact ⟨.f32 x, fun _ _ _ => rfl⟩
      · exact ⟨.f64 x.widen, fun _ _ _ => rfl⟩
  | double =>
      obtain ⟨x, rfl⟩ := hv.isOf rfl
      obtain rfl := List.mem_singleton.1 hfamily
      exact ⟨.f64 x, fun _ _ _ => rfl⟩
  | bytes =>
      obtain ⟨b, rfl⟩ := hv.isOf rfl
      obtain rfl := List.mem_singleton.1 hfamily
      exact ⟨.bytes b, fun _ _ _ => rfl⟩
  | string =>
      obtain ⟨t, rfl⟩ := hv.isOf rfl
      obtain rfl := List.mem_singleton.1 hfamily
      exact ⟨.text t, fun _ _ _ => rfl⟩
  | date =>
      obtain ⟨d, hd⟩ := hdecodes
      obtain rfl := List.mem_singleton.1 hfamily
      exact ⟨.date d, fun _ _ _ => write_date hd⟩
  | timeMillis | timeMicros =>
      obtain ⟨t, ht⟩ := hdecodes
      obtain rfl := List.mem_singleton.1 hfamily
      exact ⟨.time t, fun _ _ _ => write_time ht⟩
  | timestampMillis | timestampMicros =>
      obtain ⟨t, ht⟩ := hdecodes
      simp only [Shape.families, List.mem_cons, List.not_mem_nil, or_false] at hfamily
      rcases hfamily with rfl | rfl
      · refine ⟨.timestamp t, fun f c hshape => write_timestamp ?_⟩
        rw [hshape]
        exact ht
      · refine ⟨.zonedTimestamp (.ofUtc t), fun f c hshape => write_zonedTimestamp ?_⟩
        rw [hshape]
        exact ht
  | decimal precision scale =>
      obtain ⟨d, rfl⟩ := hv
      obtain rfl := List.mem_singleton.1 hfamily
      exact ⟨.decimal d, fun _ _ _ => rfl⟩

namespace Column

variable {vendor : Vendor} {c : Column} {s : Shape} {v : Value}

def HasRoom (c : Column) (v : Value) : Prop :=
  ∀ family, c.code.family? = some family → family.HasRoom v

theorem exists_writes (hscalar : s.isScalar = true)
    (hcolumn : ∀ family, c.code.family? = some family → family ∈ s.families)
    (hv : v.HasShape s) (hdecodes : v.Decodes s) (hroom : c.HasRoom v)
    (hnone : ∀ name ordinal, (vendor.write? name (c.columnType ordinal) v :
      Option (ParamM Statement Unit)) = none) : ∃ p, c.Writes vendor s v p := by
  have hnull := hv.isNull_eq hscalar
  cases hfamily : c.code.family? with
  | some family =>
      obtain ⟨p, hp⟩ := Family.exists_write (hcolumn family hfamily) hv hdecodes
        (hroom family hfamily)
      exact ⟨p, .of_family hfamily hnull hnone hp⟩
  | none =>
      obtain ⟨family, hwritten, hmem, hown⟩ := hv.family hscalar
      obtain ⟨p, hp⟩ := Family.exists_write hmem hv hdecodes hown
      refine ⟨p, fun f ordinal hshape => ?_⟩
      have hgeneric : f.writeGeneric (c.columnType ordinal) v = .ok p := by
        have hcode : (c.columnType ordinal).code.family? = none := hfamily
        rw [Field.writeGeneric, hcode, hshape, Option.none_or, hwritten]
        exact hp f _ hshape
      rw [Field.write_of_unanswered hnull (hnone f.name ordinal), hgeneric]
      rfl

theorem exists_writes_of_fits (hscalar : s.isScalar = true) (hfits : s.fits c = true)
    (hv : v.HasShape s) (hdecodes : v.Decodes s) (hroom : c.HasRoom v)
    (hnone : ∀ name ordinal, (vendor.write? name (c.columnType ordinal) v :
      Option (ParamM Statement Unit)) = none) : ∃ p, c.Writes vendor s v p :=
  exists_writes hscalar (fun _ => Shape.mem_families_of_fits hscalar hfits) hv hdecodes hroom hnone

end Column

end TableTransfer
