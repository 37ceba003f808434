import Mathlib.Data.List.Nodup
import TableTransfer.Proofs.Pairing
import TableTransfer.Schema.Node

namespace TableTransfer

theorem Field.repeated?_eq_none_iff {seen : List String} {fields : List Field} :
    repeated? seen fields = none ↔
      (∀ f ∈ fields, f.name ∉ seen) ∧ (fields.map Field.name).Nodup := by
  induction fields generalizing seen with
  | nil => simp [repeated?]
  | cons f fields ih =>
      rw [repeated?]
      by_cases hseen : f.name ∈ seen
      · simp [hseen]
      · rw [if_neg (by simpa using hseen), ih]
        simp only [List.mem_cons, not_or, forall_eq_or_imp, List.map_cons, List.nodup_cons,
          List.mem_map, not_exists, not_and, forall_and]
        tauto

theorem Physical.lowercase_tag (p : Physical) : Text.lowercase p.tag = p.tag := by
  cases p <;> decide +kernel

theorem Physical.tag_injective : Function.Injective Physical.tag := by
  intro p q h
  cases p <;> cases q <;> first
    | rfl
    | exact absurd h (by decide)

theorem Logical.tag_injective : Function.Injective Logical.tag := by
  intro l m h
  cases l <;> cases m <;> first
    | rfl
    | exact absurd h (by decide)

/-- The fields of a record have different names. A decimal has digits, and no more places than
digits. -/
def Shape.IsSound : Shape → Prop
  | .record fields => (fields.map Field.name).Nodup
  | .decimal precision scale => 1 ≤ precision ∧ scale ≤ precision
  | _ => True

theorem Physical.exists_shape (p : Physical) : ∃ s : Shape, s.physical = p ∧ s.logical? = none := by
  cases p with
  | null => exact ⟨.null, rfl, rfl⟩
  | boolean => exact ⟨.boolean, rfl, rfl⟩
  | int => exact ⟨.int, rfl, rfl⟩
  | long => exact ⟨.long, rfl, rfl⟩
  | float => exact ⟨.float, rfl, rfl⟩
  | double => exact ⟨.double, rfl, rfl⟩
  | bytes => exact ⟨.bytes, rfl, rfl⟩
  | string => exact ⟨.string, rfl, rfl⟩
  | array => exact ⟨.array ⟨.null, true⟩, rfl, rfl⟩
  | record => exact ⟨.record [], rfl, rfl⟩

theorem Logical.exists_shape (l : Logical) : ∃ s : Shape, s.logical? = some l := by
  cases l with
  | date => exact ⟨.date, rfl⟩
  | timeMillis => exact ⟨.timeMillis, rfl⟩
  | timeMicros => exact ⟨.timeMicros, rfl⟩
  | timestampMillis => exact ⟨.timestampMillis, rfl⟩
  | timestampMicros => exact ⟨.timestampMicros, rfl⟩
  | decimal => exact ⟨.decimal 1 0, rfl⟩

namespace Node

/-- The node names the storage, in letters of any case, and has the parts that go with it. -/
structure Stores (n : Node) (p : Physical) : Prop where
  tag_eq : Text.lowercase n.type = p.tag
  exists_items : p = .array → ∃ items, n.items = some items
  exists_fields : p = .record → ∃ fields, n.fields = some fields ∧ (fields.map Field.name).Nodup

/-- The node names the meaning. A decimal has digits, and no more places than digits. -/
structure Means (n : Node) (l : Logical) : Prop where
  tag_eq : n.logicalType = some l.tag
  exists_precision : l = .decimal →
    ∃ precision, n.precision = some precision ∧ 1 ≤ precision ∧ n.scale.getD 0 ≤ precision

/-- The node names a storage, and no meaning but one that refines this storage. -/
def WellFormed (n : Node) : Prop :=
  ∃ p, n.Stores p ∧ (n.logicalType = none ∨ ∃ l, n.Means l ∧ l.physical = p)

inductive Describes (n : Node) : Shape → Prop
  | plain {s : Shape} (htag : Text.lowercase n.type = s.physical.tag)
      (hname : n.logicalType = none) (hlogical : s.logical? = none)
      (harray : s.physical ≠ .array) (hrecord : s.physical ≠ .record) : Describes n s
  | array {items : UniversalType} (htag : Text.lowercase n.type = Physical.array.tag)
      (hname : n.logicalType = none) (hitems : n.items = some items) : Describes n (.array items)
  | record {fields : List Field} (htag : Text.lowercase n.type = Physical.record.tag)
      (hname : n.logicalType = none) (hfields : n.fields = some fields)
      (hnodup : (fields.map Field.name).Nodup) : Describes n (.record fields)
  | meant {s : Shape} {l : Logical} (hlogical : s.logical? = some l) (hdecimal : l ≠ .decimal)
      (htag : Text.lowercase n.type = l.physical.tag) (hname : n.logicalType = some l.tag) :
      Describes n s
  | decimal {precision scale : Nat} (htag : Text.lowercase n.type = Physical.bytes.tag)
      (hname : n.logicalType = some Logical.decimal.tag) (hprecision : n.precision = some precision)
      (hscale : n.scale.getD 0 = scale) (hpos : 1 ≤ precision) (hle : scale ≤ precision) :
      Describes n (.decimal precision scale)

variable {n : Node} {s : Shape}

theorem Describes.isSound (h : n.Describes s) : s.IsSound := by
  cases h with
  | plain htag hname hlogical harray hrecord =>
      cases s with
      | record => exact absurd rfl hrecord
      | decimal => cases hlogical
      | null | boolean | int | long | float | double | bytes | string | date | timeMillis
      | timeMicros | timestampMillis | timestampMicros | array => trivial
  | array => trivial
  | record htag hname hfields hnodup => exact hnodup
  | meant hlogical hdecimal =>
      cases s with
      | record => cases hlogical
      | decimal =>
          cases hlogical
          exact absurd rfl hdecimal
      | null | boolean | int | long | float | double | bytes | string | date | timeMillis
      | timeMicros | timestampMillis | timestampMicros | array => trivial
  | decimal htag hname hprecision hscale hpos hle => exact ⟨hpos, hle⟩

theorem storage_eq_ok (h : n.storage = .ok s) :
    Text.lowercase n.type = s.physical.tag ∧ s.logical? = none ∧
      (n.logicalType = none → n.Describes s) := by
  simp only [storage] at h
  split at h
  case h_9 htag =>
    split at h
    · rename_i items hitems
      cases h
      exact ⟨htag, rfl, fun hname => .array htag hname hitems⟩
    · cases h
  case h_10 htag =>
    split at h
    · rename_i fields hfields
      split at h
      · cases h
      · rename_i hnone
        cases h
        exact ⟨htag, rfl, fun hname =>
          .record htag hname hfields (Field.repeated?_eq_none_iff.1 hnone).2⟩
    · cases h
  case h_11 => cases h
  all_goals
    rename_i htag
    cases h
    exact ⟨htag, rfl, fun hname => .plain htag hname rfl (by decide) (by decide)⟩

theorem meaning_eq_ok {m : Option Shape} (h : n.meaning = .ok m) :
    (m = none ∧ n.logicalType = none) ∨
      ∃ s l, m = some s ∧ s.logical? = some l ∧
        (Text.lowercase n.type = l.physical.tag → n.Describes s) := by
  simp only [meaning] at h
  split at h
  case h_1 hname =>
    cases h
    exact .inl ⟨rfl, hname⟩
  case h_7 hname =>
    split at h
    · cases h
    · rename_i precision hprecision
      split at h
      · cases h
      · rename_i hbounds
        cases h
        exact .inr ⟨_, .decimal, rfl, rfl, fun htag =>
          .decimal htag hname hprecision rfl (by omega) (by omega)⟩
  case h_8 => cases h
  all_goals
    rename_i hname
    cases h
    exact .inr ⟨_, _, rfl, rfl, fun htag => .meant rfl (by decide) htag hname⟩

theorem storage_of_tag (htag : Text.lowercase n.type = s.physical.tag) (hlogical : s.logical? = none)
    (harray : s.physical ≠ .array) (hrecord : s.physical ≠ .record) : n.storage = .ok s := by
  rw [storage, htag]
  cases s with
  | null | boolean | int | long | float | double | bytes | string => rfl
  | date | timeMillis | timeMicros | timestampMillis | timestampMicros | decimal => cases hlogical
  | array => exact absurd rfl harray
  | record => exact absurd rfl hrecord

theorem exists_storage_of_logical {l : Logical} (htag : Text.lowercase n.type = l.physical.tag) :
    ∃ s, n.storage = .ok s ∧ s.physical = l.physical := by
  obtain ⟨s, hphysical, hlogical⟩ := Physical.exists_shape l.physical
  have harray : l.physical ≠ .array := by cases l <;> decide
  have hrecord : l.physical ≠ .record := by cases l <;> decide
  rw [← hphysical] at htag harray hrecord
  exact ⟨s, storage_of_tag htag hlogical harray hrecord, hphysical⟩

theorem meaning_of_tag {l : Logical} (hlogical : s.logical? = some l) (hdecimal : l ≠ .decimal)
    (hname : n.logicalType = some l.tag) : n.meaning = .ok (some s) := by
  rw [meaning, hname]
  cases s with
  | date | timeMillis | timeMicros | timestampMillis | timestampMicros =>
      cases hlogical
      rfl
  | decimal =>
      cases hlogical
      exact absurd rfl hdecimal
  | null | boolean | int | long | float | double | bytes | string | array | record => cases hlogical

theorem meaning_of_decimal {precision scale : Nat}
    (hname : n.logicalType = some Logical.decimal.tag) (hprecision : n.precision = some precision)
    (hscale : n.scale.getD 0 = scale) (hpos : 1 ≤ precision) (hle : scale ≤ precision) :
    n.meaning = .ok (some (.decimal precision scale)) := by
  rw [meaning, hname, hprecision, hscale]
  exact if_neg (by omega)

theorem refine_of_logical {storage : Shape} {l : Logical} (hlogical : s.logical? = some l)
    (hphysical : storage.physical = l.physical) : refine storage (some s) = .ok s := by
  simp only [refine, hlogical]
  exact if_pos hphysical

end Node

namespace UniversalType

variable {n : Node} {t : UniversalType}

theorem ofNode_of_meaning {s : Shape} {l : Logical} (hlogical : s.logical? = some l)
    (htag : Text.lowercase n.type = l.physical.tag) (hmeaning : n.meaning = .ok (some s)) :
    ofNode n = .ok ⟨s, n.nullable⟩ := by
  obtain ⟨storage, hstorage, hphysical⟩ := Node.exists_storage_of_logical htag
  exact bind_eq_ok.2 ⟨storage, hstorage, bind_eq_ok.2 ⟨_, hmeaning,
    bind_eq_ok.2 ⟨s, Node.refine_of_logical hlogical hphysical, rfl⟩⟩⟩

theorem ofNode_of_storage {s : Shape} (hstorage : n.storage = .ok s) (hname : n.logicalType = none) :
    ofNode n = .ok ⟨s, n.nullable⟩ := by
  have hmeaning : n.meaning = .ok none := by rw [Node.meaning, hname]
  exact bind_eq_ok.2 ⟨s, hstorage, bind_eq_ok.2 ⟨none, hmeaning, rfl⟩⟩

/-- A node is read as the type that it describes, and no other node is read as one. -/
theorem ofNode_eq_ok_iff : ofNode n = .ok t ↔ n.Describes t.shape ∧ t.nullable = n.nullable := by
  constructor
  · intro h
    obtain ⟨storage, hstorage, h⟩ := bind_eq_ok.1 h
    obtain ⟨meaning, hmeaning, h⟩ := bind_eq_ok.1 h
    obtain ⟨s, hrefine, h⟩ := bind_eq_ok.1 h
    cases h
    refine ⟨?_, rfl⟩
    obtain ⟨htag, -, hdescribes⟩ := Node.storage_eq_ok hstorage
    obtain ⟨rfl, hname⟩ | ⟨m, l, rfl, hlogical, hmeant⟩ := Node.meaning_eq_ok hmeaning
    · cases hrefine
      exact hdescribes hname
    · simp only [Node.refine, hlogical] at hrefine
      split at hrefine
      · rename_i hphysical
        cases hrefine
        exact hmeant (hphysical ▸ htag)
      · cases hrefine
  · rintro ⟨h, hnullable⟩
    obtain ⟨s, nullable⟩ := t
    dsimp only at h hnullable
    subst hnullable
    cases h with
    | plain htag hname hlogical harray hrecord =>
        exact ofNode_of_storage (Node.storage_of_tag htag hlogical harray hrecord) hname
    | array htag hname hitems =>
        refine ofNode_of_storage ?_ hname
        rw [Node.storage, htag, hitems]
        rfl
    | record htag hname hfields hnodup =>
        have hnone : Field.repeated? [] _ = none :=
          Field.repeated?_eq_none_iff.2 ⟨fun _ _ => List.not_mem_nil, hnodup⟩
        refine ofNode_of_storage ?_ hname
        rw [Node.storage, htag, hfields]
        simp only [Physical.tag, hnone]
    | meant hlogical hdecimal htag hname =>
        exact ofNode_of_meaning hlogical htag (Node.meaning_of_tag hlogical hdecimal hname)
    | decimal htag hname hprecision hscale hpos hle =>
        exact ofNode_of_meaning rfl htag
          (Node.meaning_of_decimal hname hprecision hscale hpos hle)

end UniversalType

theorem Node.wellFormed_iff {n : Node} : n.WellFormed ↔ ∃ s, n.Describes s := by
  constructor
  · rintro ⟨p, ⟨htag, hitems, hfields⟩, hname | ⟨l, ⟨hname, hprecision⟩, rfl⟩⟩
    · cases p with
      | array =>
          obtain ⟨items, hitems⟩ := hitems rfl
          exact ⟨_, .array htag hname hitems⟩
      | record =>
          obtain ⟨fields, hfields, hnodup⟩ := hfields rfl
          exact ⟨_, .record htag hname hfields hnodup⟩
      | null | boolean | int | long | float | double | bytes | string =>
          obtain ⟨s, hphysical, hlogical⟩ := Physical.exists_shape _
          exact ⟨s, .plain (hphysical ▸ htag) hname hlogical (hphysical ▸ by decide)
            (hphysical ▸ by decide)⟩
    · cases l with
      | decimal =>
          obtain ⟨precision, hprecision, hpos, hle⟩ := hprecision rfl
          exact ⟨_, .decimal htag hname hprecision rfl hpos hle⟩
      | date | timeMillis | timeMicros | timestampMillis | timestampMicros =>
          obtain ⟨s, hlogical⟩ := Logical.exists_shape _
          exact ⟨s, .meant hlogical (by decide) htag hname⟩
  · rintro ⟨s, h⟩
    cases h with
    | plain htag hname _ harray hrecord =>
        exact ⟨_, ⟨htag, fun h => absurd h harray, fun h => absurd h hrecord⟩, .inl hname⟩
    | array htag hname hitems =>
        exact ⟨_, ⟨htag, fun _ => ⟨_, hitems⟩, fun h => by cases h⟩, .inl hname⟩
    | record htag hname hfields hnodup =>
        exact ⟨_, ⟨htag, fun h => (by cases h), fun _ => ⟨_, hfields, hnodup⟩⟩, .inl hname⟩
    | @meant s l hlogical hdecimal htag hname =>
        refine ⟨l.physical, ⟨htag, fun h => ?_, fun h => ?_⟩, .inr ⟨l, ⟨hname, fun h => ?_⟩, rfl⟩⟩
        · cases l <;> cases h
        · cases l <;> cases h
        · exact absurd h hdecimal
    | decimal htag hname hprecision hscale hpos hle =>
        exact ⟨_, ⟨htag, fun h => (by cases h), fun h => by cases h⟩,
          .inr ⟨.decimal, ⟨hname, fun _ => ⟨_, hprecision, hpos, hscale ▸ hle⟩⟩, rfl⟩⟩

end TableTransfer
