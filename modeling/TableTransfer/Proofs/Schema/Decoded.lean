import TableTransfer.Proofs.Schema.Described
import TableTransfer.Schema.Exchange

namespace TableTransfer

namespace UniversalType

/-- The type itself or, at any depth, the items of an array or a field of a record in it. -/
inductive Part (u : UniversalType) : UniversalType → Prop
  | self : Part u u
  | item {items : UniversalType} {nullable : Bool} (h : Part u items) :
      Part u ⟨.array items, nullable⟩
  | field {f : Field} {fields : List Field} {nullable : Bool} (hf : f ∈ fields)
      (h : Part u f.type) : Part u ⟨.record fields, nullable⟩

theorem Part.trans {u w t : UniversalType} (huw : Part u w) (hwt : Part w t) : Part u t := by
  induction hwt with
  | self => exact huw
  | item _ ih => exact .item ih
  | field hf _ ih => exact .field hf ih

def Throughout (P : UniversalType → Prop) (t : UniversalType) : Prop := ∀ u, Part u t → P u

/-- A node describes the type, and a precision in it is a number of 32 bits. -/
structure Formed (t : UniversalType) : Prop where
  wellFormed : t.toNode.WellFormed
  precision_le {precision : Nat} : t.toNode.precision = some precision → precision ≤ 0xffffffff

end UniversalType

structure Node.Formed (n : Node) : Prop where
  precision_le {precision : Nat} : n.precision = some precision → precision ≤ 0xffffffff
  items {items : UniversalType} : n.items = some items → items.Throughout UniversalType.Formed
  fields {fields : List Field} : n.fields = some fields →
    ∀ f ∈ fields, f.type.Throughout UniversalType.Formed

namespace UniversalType

variable {n : Node} {t : UniversalType}

theorem describes_toNode (h : t.shape.IsSound) : t.toNode.Describes t.shape := by
  obtain ⟨s, nullable⟩ := t
  cases s with
  | null | boolean | int | long | float | double | bytes | string =>
      exact .plain (Physical.lowercase_tag _) rfl rfl (fun h => by cases h) fun h => by cases h
  | date | timeMillis | timeMicros | timestampMillis | timestampMicros =>
      exact .meant rfl (by decide) (Physical.lowercase_tag _) rfl
  | array => exact .array (Physical.lowercase_tag .array) rfl rfl
  | record => exact .record (Physical.lowercase_tag .record) rfl rfl h
  | decimal => exact .decimal (Physical.lowercase_tag .bytes) rfl rfl rfl h.1 h.2

theorem wellFormed_toNode_iff : t.toNode.WellFormed ↔ t.shape.IsSound := by
  refine ⟨?_, fun h => Node.wellFormed_iff.2 ⟨_, describes_toNode h⟩⟩
  rintro ⟨p, ⟨htag, -, hfields⟩, hmeans⟩
  obtain ⟨s, nullable⟩ := t
  have hphysical : s.physical = p :=
    Physical.tag_injective ((Physical.lowercase_tag s.physical).symm.trans htag)
  cases s with
  | record =>
      obtain ⟨_, hsome, hnodup⟩ := hfields hphysical.symm
      cases hsome
      exact hnodup
  | decimal =>
      obtain hnone | ⟨l, ⟨hname, hbounds⟩, -⟩ := hmeans
      · cases hnone
      obtain rfl : Logical.decimal = l := Logical.tag_injective (Option.some.inj hname)
      obtain ⟨_, hsome, hbounds⟩ := hbounds rfl
      cases hsome
      exact hbounds
  | null | boolean | int | long | float | double | bytes | string | date | timeMillis | timeMicros
  | timestampMillis | timestampMicros | array => trivial

theorem precision_of_toNode (h : n.Describes t.shape) {precision : Nat}
    (hprecision : t.toNode.precision = some precision) : n.precision = some precision := by
  obtain ⟨s, nullable⟩ := t
  dsimp only at h
  cases s with
  | decimal =>
      cases hprecision
      cases h with
      | plain _ _ hlogical => cases hlogical
      | meant hlogical hdecimal =>
          cases hlogical
          exact absurd rfl hdecimal
      | decimal _ _ hprecision => exact hprecision
  | null | boolean | int | long | float | double | bytes | string | date | timeMillis
  | timeMicros | timestampMillis | timestampMicros | array | record => cases hprecision

theorem throughout_of_describes {P : UniversalType → Prop} (h : n.Describes t.shape) (ht : P t)
    (hitems : ∀ items, n.items = some items → items.Throughout P)
    (hfields : ∀ fields, n.fields = some fields → ∀ f ∈ fields, f.type.Throughout P) :
    t.Throughout P := by
  intro u hu
  cases hu with
  | self => exact ht
  | item hu =>
      cases h with
      | plain _ _ _ harray => exact absurd rfl harray
      | array _ _ hn => exact hitems _ hn u hu
      | meant hlogical => cases hlogical
  | field hf hu =>
      cases h with
      | plain _ _ _ _ hrecord => exact absurd rfl hrecord
      | record _ _ hn => exact hfields _ hn _ hf u hu
      | meant hlogical => cases hlogical

theorem throughout_of_ofNode (h : ofNode n = .ok t) (hn : n.Formed) : t.Throughout Formed := by
  have hdescribes := (ofNode_eq_ok_iff.1 h).1
  have hwell : t.toNode.WellFormed := wellFormed_toNode_iff.2 hdescribes.isSound
  exact throughout_of_describes hdescribes
    ⟨hwell, fun hprecision => hn.precision_le (precision_of_toNode hdescribes hprecision)⟩
    (fun _ => hn.items) fun _ => hn.fields

end UniversalType

theorem guard_eq_ok {α ε : Type} {b : Bool} {e : ε} {next : PUnit → Except ε α} {a : α} :
    (if b = true then throw e >>= next else next ()) = .ok a ↔ b = false ∧ next () = .ok a := by
  cases b with
  | true => exact iff_of_false (fun h => by cases h) fun h => by cases h.1
  | false => exact ⟨fun h => ⟨rfl, h⟩, fun h => h.2⟩

theorem mapError_eq_ok {α ε δ : Type} {f : ε → δ} {x : Except ε α} {a : α} :
    x.mapError f = .ok a ↔ x = .ok a := by
  cases x <;> simp [Except.mapError]

theorem Document.le_of_asNat32 {d : Document} {k : Nat} (h : d.asNat32 = .ok k) :
    k ≤ 0xffffffff := by
  obtain ⟨i, hi, h⟩ := bind_eq_ok.1 h
  cases h
  simp only [asInt] at hi
  split at hi
  · split at hi
    · cases hi
      omega
    · cases hi
  · cases hi

theorem Document.le_of_asOption {d : Document} {k : Nat}
    (h : d.asOption Document.asNat32 = .ok (some k)) : k ≤ 0xffffffff := by
  have hread : ∀ d : Document, (some <$> d.asNat32) = .ok (some k) → k ≤ 0xffffffff := by
    intro d hd
    cases hread : d.asNat32 with
    | error e =>
        rw [hread] at hd
        cases hd
    | ok i =>
        rw [hread] at hd
        cases hd
        exact le_of_asNat32 hread
  simp only [asOption] at h
  split at h
  · cases h
  · split at h
    · cases h
    · exact hread _ h
  · split at h <;> cases h
  · exact hread _ h

namespace Node

variable {n : Node}

theorem formed_empty : Formed { type := "" } where
  precision_le h := by cases h
  items h := by cases h
  fields h := by cases h

theorem finish_eq_ok {entries : List (String × Document)} {t : UniversalType}
    (h : n.finish entries = .ok t) : UniversalType.ofNode n = .ok t := by
  rw [finish] at h
  split at h
  · cases h
  · exact mapError_eq_ok.1 h

theorem throughout_of_finish {entries : List (String × Document)} {t : UniversalType}
    (h : n.finish entries = .ok t) (hn : n.Formed) : t.Throughout UniversalType.Formed :=
  UniversalType.throughout_of_ofNode (finish_eq_ok h) hn

end Node

section

variable {entries : List (String × Document)}

theorem UniversalType.ofDocument_map_eq_ok {t : UniversalType} :
    ofDocument (.map entries) = .ok t ↔
      Document.repeats Node.layout.names entries = false ∧
        ∃ n, Node.ofEntries { type := "" } entries = .ok n ∧ n.finish entries = .ok t := by
  rw [ofDocument]
  exact guard_eq_ok.trans (and_congr_right fun _ => bind_eq_ok)

theorem UniversalType.ofDocument_list_eq_ok {items : List Document} {t : UniversalType} :
    ofDocument (.list items) = .ok t ↔
      items.isEmpty = false ∧
        ∃ n, Node.ofItems { type := "" } Node.layout.names items = .ok n ∧ ofNode n = .ok t := by
  rw [ofDocument]
  refine guard_eq_ok.trans (and_congr_right fun _ => bind_eq_ok.trans ?_)
  exact exists_congr fun n => and_congr_right fun _ => mapError_eq_ok

theorem Field.ofDocument_map_eq_ok {f : Field} :
    ofDocument (.map entries) = .ok f ↔
      Document.repeats ["name"] entries = false ∧
        (∃ d ds, Document.valuesAt "name" entries = d :: ds ∧ d.asText = .ok f.name) ∧
        UniversalType.ofDocument (.map entries) = .ok f.type := by
  obtain ⟨name, type⟩ := f
  rw [ofDocument, UniversalType.ofDocument_map_eq_ok]
  refine guard_eq_ok.trans (and_congr_right fun _ => ?_)
  generalize Document.valuesAt "name" entries = values
  cases values with
  | nil =>
      refine iff_of_false (fun h => by cases h) ?_
      rintro ⟨⟨_, _, hcons, -⟩, -⟩
      cases hcons
  | cons d ds =>
      constructor
      · intro h
        obtain ⟨name, hname, h⟩ := bind_eq_ok.1 h
        obtain ⟨hrepeats, h⟩ := guard_eq_ok.1 h
        obtain ⟨n, hn, h⟩ := bind_eq_ok.1 h
        obtain ⟨type, htype, h⟩ := bind_eq_ok.1 h
        cases h
        exact ⟨⟨d, ds, rfl, hname⟩, hrepeats, n, hn, htype⟩
      · rintro ⟨⟨_, _, hcons, hname⟩, hrepeats, n, hn, htype⟩
        cases hcons
        exact bind_eq_ok.2 ⟨_, hname, guard_eq_ok.2 ⟨hrepeats, bind_eq_ok.2 ⟨n, hn,
          bind_eq_ok.2 ⟨_, htype, rfl⟩⟩⟩⟩

end

namespace Document

def parts : Document → List Document
  | list items => items
  | map entries => entries.map Prod.snd
  | marked _ d => [d]
  | null | bool _ | int _ | real _ | text _ | plain _ | other | unreadable => []

theorem sizeOf_lt_of_mem_parts {d part : Document} (h : part ∈ d.parts) :
    sizeOf part < sizeOf d := by
  cases d with
  | list items =>
      have hmem : part ∈ items := h
      have hlt := List.sizeOf_lt_of_mem hmem
      simp only [list.sizeOf_spec]
      omega
  | map entries =>
      obtain ⟨⟨name, part⟩, hmem, rfl⟩ := List.mem_map.1 h
      have hlt := List.sizeOf_lt_of_mem hmem
      simp only [map.sizeOf_spec, Prod.mk.sizeOf_spec] at hlt ⊢
      omega
  | marked m d =>
      obtain rfl := List.mem_singleton.1 h
      simp only [marked.sizeOf_spec]
      omega
  | null | bool _ | int _ | real _ | text _ | plain _ | other | unreadable => cases h

/-- What holds of a document as soon as it holds of its parts holds of all documents. -/
theorem forall_of_parts {P : Document → Prop} (h : ∀ d, (∀ part ∈ d.parts, P part) → P d)
    (d : Document) : P d :=
  h d fun part _ => forall_of_parts h part
termination_by sizeOf d
decreasing_by exact sizeOf_lt_of_mem_parts ‹_›

structure Forms (d : Document) : Prop where
  type {t : UniversalType} : UniversalType.ofDocument d = .ok t →
    t.Throughout UniversalType.Formed
  field {f : Field} : Field.ofDocument d = .ok f → f.type.Throughout UniversalType.Formed
  fields {items : List Document} {fields : List Field} : d = .list items →
    Field.ofItems items = .ok fields → ∀ f ∈ fields, f.type.Throughout UniversalType.Formed

end Document

namespace Node.Formed

variable {n m : Node} (hn : n.Formed)
include hn

theorem setMember {name : String} {d : Document} (hd : d.Forms)
    (h : n.setMember name d = .ok m) : m.Formed := by
  rw [Node.setMember.eq_def] at h
  split at h
  case h_1 | h_2 | h_4 | h_5 =>
    obtain ⟨a, -, h⟩ := bind_eq_ok.1 h
    cases h
    exact ⟨hn.precision_le, hn.items, hn.fields⟩
  case h_3 =>
    obtain ⟨precision, hprecision, h⟩ := bind_eq_ok.1 h
    cases h
    refine ⟨fun h => ?_, hn.items, hn.fields⟩
    cases h
    exact Document.le_of_asOption hprecision
  case h_6 =>
    split at h
    · cases h
      exact hn
    · obtain ⟨items, hitems, h⟩ := bind_eq_ok.1 h
      cases h
      refine ⟨hn.precision_le, fun h => ?_, hn.fields⟩
      cases h
      exact hd.type hitems
  case h_7 =>
    split at h
    · cases h
      exact hn
    · obtain ⟨fields, hfields, h⟩ := bind_eq_ok.1 h
      cases h
      refine ⟨hn.precision_le, hn.items, fun h => ?_⟩
      cases h
      exact hd.fields rfl hfields
    · cases h
  case h_8 =>
    cases h
    exact hn

theorem ofEntries {entries : List (String × Document)} (hentries : ∀ e ∈ entries, e.2.Forms)
    (h : Node.ofEntries n entries = .ok m) : m.Formed := by
  induction entries generalizing n with
  | nil =>
      rw [Node.ofEntries] at h
      cases h
      exact hn
  | cons e entries ih =>
      obtain ⟨he, hentries⟩ := List.forall_mem_cons.1 hentries
      rw [Node.ofEntries] at h
      obtain ⟨next, hnext, h⟩ := bind_eq_ok.1 h
      exact ih (hn.setMember he hnext) hentries h

theorem ofItems {names : List String} {items : List Document} (hitems : ∀ d ∈ items, d.Forms)
    (h : Node.ofItems n names items = .ok m) : m.Formed := by
  induction items generalizing n names with
  | nil =>
      rw [Node.ofItems] at h
      cases h
      exact hn
  | cons d items ih =>
      obtain ⟨hd, hitems⟩ := List.forall_mem_cons.1 hitems
      cases names with
      | nil =>
          rw [Node.ofItems] at h
          cases h
      | cons name names =>
          rw [Node.ofItems] at h
          obtain ⟨next, hnext, h⟩ := bind_eq_ok.1 h
          exact ih (hn.setMember hd hnext) hitems h

end Node.Formed

theorem Field.throughout_of_ofItems {items : List Document} {fields : List Field}
    (hitems : ∀ d ∈ items, d.Forms) (h : ofItems items = .ok fields) :
    ∀ f ∈ fields, f.type.Throughout UniversalType.Formed := by
  induction items generalizing fields with
  | nil =>
      rw [ofItems] at h
      cases h
      exact List.forall_mem_nil _
  | cons d items ih =>
      obtain ⟨hd, hitems⟩ := List.forall_mem_cons.1 hitems
      rw [ofItems] at h
      obtain ⟨f, hf, h⟩ := bind_eq_ok.1 h
      obtain ⟨rest, hrest, h⟩ := bind_eq_ok.1 h
      cases h
      exact List.forall_mem_cons.2 ⟨hd.field hf, ih hitems hrest⟩

namespace Document

theorem throughout_of_map {entries : List (String × Document)} {t : UniversalType}
    (hentries : ∀ e ∈ entries, e.2.Forms) (h : UniversalType.ofDocument (.map entries) = .ok t) :
    t.Throughout UniversalType.Formed := by
  obtain ⟨-, n, hn, h⟩ := UniversalType.ofDocument_map_eq_ok.1 h
  exact Node.throughout_of_finish h (Node.formed_empty.ofEntries hentries hn)

theorem throughout_of_list {items : List Document} {t : UniversalType}
    (hitems : ∀ d ∈ items, d.Forms) (h : UniversalType.ofDocument (.list items) = .ok t) :
    t.Throughout UniversalType.Formed := by
  obtain ⟨-, n, hn, h⟩ := UniversalType.ofDocument_list_eq_ok.1 h
  exact UniversalType.throughout_of_ofNode h (Node.formed_empty.ofItems hitems hn)

theorem forms (d : Document) : d.Forms := by
  induction d using forall_of_parts with
  | h d ih =>
    cases d with
    | map entries =>
        have hentries : ∀ e ∈ entries, e.2.Forms := fun e he => ih e.2 (List.mem_map_of_mem he)
        refine ⟨throughout_of_map hentries, fun h => ?_, fun hlist => by cases hlist⟩
        exact throughout_of_map hentries (Field.ofDocument_map_eq_ok.1 h).2.2
    | list items =>
        refine ⟨throughout_of_list ih, fun h => ?_, fun hlist h => ?_⟩
        · rw [Field.ofDocument] at h
          · cases h
          · exact fun _ => Document.noConfusion
        · cases hlist
          exact Field.throughout_of_ofItems ih h
    | null | bool _ | int _ | real _ | text _ | plain _ | marked _ _ | other | unreadable =>
        refine ⟨fun h => ?_, fun h => ?_, fun hlist => by cases hlist⟩
        · rw [UniversalType.ofDocument] at h
          · cases h
          · exact fun _ => Document.noConfusion
          · exact fun _ => Document.noConfusion
        · rw [Field.ofDocument] at h
          · cases h
          · exact fun _ => Document.noConfusion

end Document

theorem Field.ofDocument_of_loose {d : Document} {f : Field} (h : ofLooseDocument d = .ok f) :
    ∃ entries, ofDocument (.map entries) = .ok f := by
  simp only [ofLooseDocument] at h
  split at h
  · obtain ⟨entries, -, h⟩ := bind_eq_ok.1 h
    exact ⟨entries, h⟩
  · cases h

/-- A node is read as a type just when it names one of the ten storages, has the parts that go with
it, and names no meaning but one that refines this storage, for a decimal with digits and no more
places than digits. A type that is read from a node whose parts are such types, or that a document
or a field of one gives, is one at every depth. -/
theorem Node.exists_ofNode_iff_wellFormed :
    (∀ n : Node, (∃ t, UniversalType.ofNode n = .ok t) ↔ n.WellFormed) ∧
      (∀ n t, UniversalType.ofNode n = .ok t →
        (∀ items, n.items = some items → items.Throughout fun u => u.toNode.WellFormed) →
        (∀ fields, n.fields = some fields →
          ∀ f ∈ fields, f.type.Throughout fun u => u.toNode.WellFormed) →
        t.Throughout fun u => u.toNode.WellFormed) ∧
      (∀ d t, UniversalType.ofDocument d = .ok t → t.Throughout fun u => u.toNode.WellFormed) ∧
      ∀ d f, Field.ofDocument d = .ok f ∨ Field.ofLooseDocument d = .ok f →
        f.type.Throughout fun u => u.toNode.WellFormed := by
  refine ⟨fun n => ?_, fun n t h hitems hfields => ?_,
    fun d t h u hu => (d.forms.type h u hu).wellFormed, fun d f h u hu => ?_⟩
  · rw [wellFormed_iff]
    constructor
    · rintro ⟨t, h⟩
      exact ⟨t.shape, (UniversalType.ofNode_eq_ok_iff.1 h).1⟩
    · rintro ⟨s, h⟩
      exact ⟨⟨s, n.nullable⟩, UniversalType.ofNode_eq_ok_iff.2 ⟨h, rfl⟩⟩
  · have hdescribes := (UniversalType.ofNode_eq_ok_iff.1 h).1
    have hwell := UniversalType.wellFormed_toNode_iff.2 hdescribes.isSound
    exact UniversalType.throughout_of_describes hdescribes hwell hitems hfields
  · rcases h with h | h
    · exact (d.forms.field h u hu).wellFormed
    · obtain ⟨entries, h⟩ := Field.ofDocument_of_loose h
      exact ((Document.forms _).field h u hu).wellFormed

theorem Node.wellFormed_items_of_read :
    ∃ t, UniversalType.ofDocument (.map [("type", .text "Array"), ("items", .map
        [("type", .text "BYTES"), ("logicalType", .text "decimal"), ("precision", .int 10)])]) =
        .ok t ∧
      UniversalType.Part ⟨.decimal 10 0, false⟩ t ∧
      (UniversalType.toNode ⟨.decimal 10 0, false⟩).WellFormed := by
  have hitems : UniversalType.ofDocument (.map [("type", .text "BYTES"),
      ("logicalType", .text "decimal"), ("precision", .int 10)]) = .ok ⟨.decimal 10 0, false⟩ := by
    simp only [UniversalType.ofDocument, Node.ofEntries, Node.setMember]
    rfl
  have hpart : UniversalType.Part ⟨.decimal 10 0, false⟩ ⟨.array ⟨.decimal 10 0, false⟩, false⟩ :=
    .item .self
  refine ⟨_, ?read, hpart, exists_ofNode_iff_wellFormed.2.2.1 _ _ ?read _ hpart⟩
  case read =>
    simp only [UniversalType.ofDocument_map_eq_ok, Node.ofEntries, Node.setMember, hitems]
    exact ⟨rfl, _, rfl, rfl⟩

end TableTransfer
