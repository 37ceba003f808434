import Mathlib.Data.List.Count
import TableTransfer.Proofs.Inference.Decimal
import TableTransfer.Proofs.Schema.Decoded

namespace TableTransfer

namespace Document

variable {entries : List (String × Document)}

theorem length_valuesAt (name : String) (entries : List (String × Document)) :
    (valuesAt name entries).length = (entries.map Prod.fst).count name := by
  rw [valuesAt, List.length_map, List.count, List.countP_map, List.countP_eq_length_filter]
  rfl

theorem repeats_of_nodup (h : (entries.map Prod.fst).Nodup) (names : List String) :
    repeats names entries = false := by
  rw [repeats, List.any_eq_false]
  intro name _
  rw [length_valuesAt, decide_eq_true_eq, Nat.not_lt]
  exact List.nodup_iff_count_le_one.1 h name

theorem asNat32_int {k : Nat} (h : k ≤ 0xffffffff) : asNat32 (.int k) = .ok k := by
  have hint : asInt 0 0xffffffff (.int k) = .ok (k : Int) := if_pos (by omega)
  rw [asNat32, hint]
  rfl

theorem asOption_asNat32_int {k : Nat} (h : k ≤ 0xffffffff) :
    asOption asNat32 (.int k) = .ok (some k) := by
  change some <$> asNat32 (.int k) = _
  rw [asNat32_int h]
  rfl

end Document

namespace Node

theorem ofEntries_append (n : Node) (xs ys : List (String × Document)) :
    n.ofEntries (xs ++ ys) = n.ofEntries xs >>= fun m => m.ofEntries ys := by
  induction xs generalizing n with
  | nil =>
      simp only [List.nil_append, ofEntries]
      rfl
  | cons entry xs ih =>
      obtain ⟨name, d⟩ := entry
      simp only [List.cons_append, ofEntries, bind_assoc, ih]

def optionalEntry {α : Type} (name : String) (d : α → Document) (o : Option α) :
    List (String × Document) := (o.map fun a => (name, d a)).toList

theorem ownEntries_eq (n : Node) :
    n.ownEntries = ("type", .text n.type) ::
      (optionalEntry "logicalType" .text n.logicalType ++
        (optionalEntry "precision" (fun k : Nat => .int k) n.precision ++
          (optionalEntry "scale" (fun k : Nat => .int k) n.scale ++
            optionalEntry "nullable" .bool (if n.nullable then some true else none)))) := by
  obtain ⟨type, logicalType, precision, scale, nullable, items, fields⟩ := n
  cases precision <;> cases scale <;> cases nullable <;> simp [ownEntries, optionalEntry]

theorem setMember_name (n : Node) (d : Document) : n.setMember "name" d = .ok n := by
  rw [setMember]
  all_goals decide

theorem map_fst_optionalEntry {α : Type} (name : String) (d : α → Document) (o : Option α) :
    ((optionalEntry name d o).map Prod.fst).Sublist [name] := by
  cases o with
  | none => exact List.nil_sublist _
  | some a => exact .refl _

theorem map_fst_ownEntries (n : Node) :
    (n.ownEntries.map Prod.fst).Sublist
      ["type", "logicalType", "precision", "scale", "nullable"] := by
  rw [ownEntries_eq, List.map_cons, List.map_append, List.map_append, List.map_append]
  exact .cons_cons "type" ((map_fst_optionalEntry "logicalType" ..).append
    ((map_fst_optionalEntry "precision" ..).append
      ((map_fst_optionalEntry "scale" ..).append (map_fst_optionalEntry "nullable" ..))))

theorem ofEntries_optionalEntry {α : Type} {n m : Node} {name : String} {d : α → Document}
    {o : Option α} (hnone : o = none → m = n)
    (hsome : ∀ a, o = some a → n.setMember name (d a) = .ok m) :
    n.ofEntries (optionalEntry name d o) = .ok m := by
  cases o with
  | none =>
      rw [hnone rfl]
      exact ofEntries.eq_1 n
  | some a =>
      have hset := hsome a rfl
      simp only [optionalEntry, Option.map, Option.toList, ofEntries, hset]
      rfl

theorem ofEntries_ownEntries (n : Node)
    (hprecision : ∀ k, n.precision = some k → k ≤ 0xffffffff)
    (hscale : ∀ k, n.scale = some k → k ≤ 0xffffffff) :
    ofEntries { type := "" } n.ownEntries = .ok { n with items := none, fields := none } := by
  rw [ownEntries_eq, ofEntries]
  refine bind_eq_ok.2 ⟨{ type := n.type }, ?_, ?_⟩
  · rw [setMember]
    rfl
  rw [ofEntries_append]
  refine bind_eq_ok.2 ⟨{ type := n.type, logicalType := n.logicalType }, ?_, ?_⟩
  · refine ofEntries_optionalEntry (fun h => by rw [h]) fun s h => ?_
    rw [setMember, h]
    rfl
  rw [ofEntries_append]
  refine bind_eq_ok.2
    ⟨{ type := n.type, logicalType := n.logicalType, precision := n.precision }, ?_, ?_⟩
  · refine ofEntries_optionalEntry (fun h => by rw [h]) fun k h => ?_
    rw [setMember, Document.asOption_asNat32_int (hprecision k h), h]
    rfl
  rw [ofEntries_append]
  refine bind_eq_ok.2 ⟨{ n with nullable := false, items := none, fields := none }, ?_, ?_⟩
  · refine ofEntries_optionalEntry (fun h => by rw [h]) fun k h => ?_
    rw [setMember, Document.asOption_asNat32_int (hscale k h), h]
    rfl
  obtain ⟨type, logicalType, precision, scale, nullable, items, fields⟩ := n
  cases nullable with
  | false => exact ofEntries_optionalEntry (fun _ => rfl) fun b h => by cases h
  | true =>
      refine ofEntries_optionalEntry (fun h => by cases h) fun b h => ?_
      cases h
      rw [setMember]
      rfl

end Node

theorem Document.firstMissing?_of_mem {entries : List (String × Document)} {name : String}
    {d : Document} (h : (name, d) ∈ entries) : firstMissing? [name] entries = none := by
  have hmem : d ∈ valuesAt name entries :=
    List.mem_map.2 ⟨(name, d), List.mem_filter.2 ⟨h, beq_self_eq_true name⟩, rfl⟩
  simp [firstMissing?, List.ne_nil_of_mem hmem]

namespace UniversalType

variable {t : UniversalType}

theorem ofNode_toNode (h : t.toNode.WellFormed) : ofNode t.toNode = .ok t :=
  ofNode_eq_ok_iff.2 ⟨describes_toNode (wellFormed_toNode_iff.1 h), rfl⟩

theorem Formed.scale_le (h : t.Formed) {scale : Nat} (hscale : t.toNode.scale = some scale) :
    scale ≤ 0xffffffff := by
  have hsound := wellFormed_toNode_iff.1 h.wellFormed
  obtain ⟨s, nullable⟩ := t
  cases s with
  | decimal =>
      cases hscale
      exact hsound.2.trans (h.precision_le rfl)
  | null | boolean | int | long | float | double | bytes | string | date | timeMillis
  | timeMicros | timestampMillis | timestampMicros | array | record => cases hscale

theorem exists_entries (t : UniversalType) :
    ∃ parts, t.entries = t.toNode.ownEntries ++ parts ∧
      (parts.map Prod.fst).Sublist ["items", "fields"] := by
  obtain ⟨s, nullable⟩ := t
  cases s with
  | array items => exact ⟨_, by rw [entries], by simp⟩
  | record fields => exact ⟨_, by rw [entries], by simp⟩
  | null | boolean | int | long | float | double | bytes | string | date | timeMillis
  | timeMicros | timestampMillis | timestampMicros | decimal =>
      exact ⟨[], by simp [entries], List.nil_sublist _⟩

theorem map_fst_entries (t : UniversalType) :
    (t.entries.map Prod.fst).Sublist Node.layout.names := by
  obtain ⟨parts, hentries, hparts⟩ := exists_entries t
  rw [hentries, List.map_append]
  exact (Node.map_fst_ownEntries _).append hparts

theorem type_mem_entries (t : UniversalType) :
    ("type", .text t.toNode.type) ∈ t.entries := by
  obtain ⟨parts, hentries, -⟩ := exists_entries t
  rw [hentries, Node.ownEntries_eq]
  exact List.mem_cons_self

theorem ofDocument_eq_ok {entries : List (String × Document)}
    (hnodup : (entries.map Prod.fst).Nodup)
    (hread : Node.ofEntries { type := "" } entries = .ok t.toNode)
    (hmem : ("type", .text t.toNode.type) ∈ entries) (h : t.toNode.WellFormed) :
    ofDocument (.map entries) = .ok t := by
  refine ofDocument_map_eq_ok.2 ⟨Document.repeats_of_nodup hnodup _, t.toNode, hread, ?_⟩
  have hnone : Document.firstMissing? Node.layout.required entries = none :=
    Document.firstMissing?_of_mem hmem
  rw [Node.finish, hnone]
  exact mapError_eq_ok.2 (ofNode_toNode h)

theorem ofDocument_toDocument_of_read (h : t.toNode.WellFormed)
    (hread : Node.ofEntries { type := "" } t.entries = .ok t.toNode) :
    ofDocument t.toDocument = .ok t :=
  ofDocument_eq_ok (List.Nodup.sublist (map_fst_entries t) (by decide)) hread (type_mem_entries t) h

end UniversalType

theorem Field.ofDocument_toDocument_of_read {f : Field} (h : f.type.toNode.WellFormed)
    (hread : Node.ofEntries { type := "" } f.type.entries = .ok f.type.toNode) :
    ofDocument f.toDocument = .ok f := by
  obtain ⟨name, type⟩ := f
  have hkeys := (UniversalType.map_fst_entries type).cons_cons "name"
  have hnodup : ((("name", Document.text name) :: type.entries).map Prod.fst).Nodup :=
    List.Nodup.sublist hkeys (by decide)
  have hname : Node.ofEntries { type := "" } (("name", .text name) :: type.entries) =
      .ok type.toNode := by
    rw [Node.ofEntries, Node.setMember_name]
    exact hread
  rw [toDocument]
  refine ofDocument_map_eq_ok.2 ⟨Document.repeats_of_nodup hnodup _,
    ⟨.text name, Document.valuesAt "name" type.entries, rfl, rfl⟩, ?_⟩
  exact UniversalType.ofDocument_eq_ok hnodup hname
    (List.mem_cons_of_mem _ (UniversalType.type_mem_entries type)) h

/-- What is written for a type that is formed at every depth is read as the node of the type. -/
theorem read_of_formed :
    (∀ t : UniversalType, t.Throughout UniversalType.Formed →
        Node.ofEntries { type := "" } t.entries = .ok t.toNode) ∧
      (∀ fields : List Field, (∀ f ∈ fields, f.type.Throughout UniversalType.Formed) →
        Field.ofItems (fieldDocuments fields) = .ok fields) ∧
      ∀ f : Field, f.type.Throughout UniversalType.Formed →
        Field.ofDocument f.toDocument = .ok f := by
  apply UniversalType.entries.mutual_induct
  case case1 =>
    intro items nullable ih ht
    have hformed := ht _ .self
    have hitems : items.Throughout UniversalType.Formed := fun u hu => ht u (.item hu)
    have hread : UniversalType.ofDocument (.map items.entries) = .ok items :=
      UniversalType.ofDocument_toDocument_of_read (hitems _ .self).wellFormed (ih hitems)
    rw [UniversalType.entries, Node.ofEntries_append]
    refine bind_eq_ok.2 ⟨_, Node.ofEntries_ownEntries _ (fun _ => hformed.precision_le)
      (fun _ => hformed.scale_le), ?_⟩
    simp only [Node.ofEntries, Node.setMember, hread]
    rfl
  case case2 =>
    intro fields nullable ih ht
    have hformed := ht _ .self
    have hread := ih fun f hf u hu => ht u (.field hf hu)
    rw [UniversalType.entries, Node.ofEntries_append]
    refine bind_eq_ok.2 ⟨_, Node.ofEntries_ownEntries _ (fun _ => hformed.precision_le)
      (fun _ => hformed.scale_le), ?_⟩
    simp only [Node.ofEntries, Node.setMember, hread]
    rfl
  case case3 =>
    intro t harray hrecord ht
    have hformed := ht _ .self
    rw [UniversalType.entries]
    · rw [Node.ofEntries_ownEntries _ (fun _ => hformed.precision_le) (fun _ => hformed.scale_le)]
      obtain ⟨s, nullable⟩ := t
      cases s with
      | array items => exact (harray items nullable rfl).elim
      | record fields => exact (hrecord fields nullable rfl).elim
      | null | boolean | int | long | float | double | bytes | string | date | timeMillis
      | timeMicros | timestampMillis | timestampMicros | decimal => rfl
    · exact harray
    · exact hrecord
  case case4 =>
    intro name type ih ht
    exact Field.ofDocument_toDocument_of_read (ht _ .self).wellFormed (ih ht)
  case case5 =>
    intro _
    rw [fieldDocuments, Field.ofItems]
  case case6 =>
    intro f fields ihfield ihfields h
    obtain ⟨hf, hfields⟩ := List.forall_mem_cons.1 h
    rw [fieldDocuments, Field.ofItems, ihfield hf, ihfields hfields]
    rfl

def Shape.IsFlat (most : Nat) : Shape → Prop
  | .array _ | .record _ => False
  | .decimal precision scale => 1 ≤ precision ∧ scale ≤ precision ∧ precision ≤ most
  | _ => True

theorem Shape.IsFlat.mono {s : Shape} {m n : Nat} (h : s.IsFlat m) (hle : m ≤ n) : s.IsFlat n := by
  cases s with
  | decimal => exact ⟨h.1, h.2.1, h.2.2.trans hle⟩
  | array | record => exact h.elim
  | null | boolean | int | long | float | double | bytes | string | date | timeMillis | timeMicros
  | timestampMillis | timestampMicros => trivial

theorem Vendor.isFlat_of_type? {v : Vendor} {c : Column} {s : Shape} (h : v.type? c = some s) :
    s.IsFlat 20 := by
  cases v with
  | generic => cases h
  | mysql =>
      cases MySql.gives_of_type? h with
      | big => exact ⟨by decide, by decide, by decide⟩
      | flag | bits | bit | year | small | medium | wide => trivial
  | postgres =>
      simp only [type?, Postgres.type?] at h
      split at h <;> cases h
      trivial
  | oracle =>
      simp only [type?, Oracle.type?] at h
      repeat' split at h
      all_goals
        cases h
        try trivial
  | sqlServer =>
      simp only [type?, SqlServer.type?] at h
      repeat' split at h
      all_goals
        cases h
        try trivial
  | db2 =>
      simp only [type?, Db2.type?] at h
      repeat' split at h
      all_goals
        cases h
        try trivial

namespace Column

variable {v : Vendor} {c : Column} {t : UniversalType}

theorem isFlat_of_genericShape? {s : Shape} (h : c.genericShape? = some s) :
    s.IsFlat c.precision.toNat := by
  obtain ⟨f, -, hs⟩ := Option.bind_eq_some_iff.1 h
  cases f with
  | numeric =>
      simp only [Family.shape?, Shape.decimalOf?] at hs
      split at hs <;> cases hs
      exact ⟨by omega, Nat.min_le_right .., le_rfl⟩
  | boolean | tinyInt | smallInt | bigInt | real | float | double | text | binary | date =>
      cases hs
      trivial
  | integer =>
      cases hs
      split <;> trivial
  | time =>
      cases hs
      rw [Shape.timeOf]
      split <;> trivial
  | timestamp | zonedTimestamp =>
      cases hs
      rw [Shape.timestampOf]
      split <;> trivial

theorem isFlat_of_infer (h : c.infer v = .ok t) : t.shape.IsFlat (max 20 c.precision.toNat) := by
  rcases Option.or_eq_some_iff.1 (shape_of_infer h) with htype | ⟨-, hgeneric⟩
  · exact (Vendor.isFlat_of_type? htype).mono (Nat.le_max_left ..)
  · exact (isFlat_of_genericShape? hgeneric).mono (Nat.le_max_right ..)

end Column

theorem Shape.IsFlat.isSound {s : Shape} {most : Nat} (h : s.IsFlat most) : s.IsSound := by
  cases s with
  | decimal => exact ⟨h.1, h.2.1⟩
  | record => exact h.elim
  | null | boolean | int | long | float | double | bytes | string | date | timeMillis | timeMicros
  | timestampMillis | timestampMicros | array => trivial

namespace UniversalType

variable {t : UniversalType} {most : Nat}

theorem throughout_of_isFlat (h : t.shape.IsFlat most) (hmost : most ≤ 0xffffffff) :
    t.Throughout Formed := by
  have hwell := wellFormed_toNode_iff.2 h.isSound
  obtain ⟨s, nullable⟩ := t
  intro u hu
  cases hu with
  | item | field => exact h.elim
  | self =>
      refine ⟨hwell, fun hprecision => ?_⟩
      cases s with
      | decimal =>
          cases hprecision
          exact h.2.2.trans hmost
      | null | boolean | int | long | float | double | bytes | string | date | timeMillis
      | timeMicros | timestampMillis | timestampMicros | array | record => cases hprecision

/-- The types that documents and columns give. The precision of a column is a number of 32 bits
with a sign. -/
inductive Arises : UniversalType → Prop
  | document {d : Document} {t : UniversalType} (h : ofDocument d = .ok t) : Arises t
  | field {d : Document} {f : Field} (h : Field.ofDocument d = .ok f ∨ Field.ofLooseDocument d = .ok f) :
      Arises f.type
  | column {v : Vendor} {c : Column} {t : UniversalType} (h : c.infer v = .ok t)
      (hprecision : c.precision ≤ 0x7fffffff) : Arises t

theorem Arises.throughout (h : t.Arises) : t.Throughout Formed := by
  cases h with
  | document h => exact (Document.forms _).type h
  | field h =>
      rcases h with h | h
      · exact (Document.forms _).field h
      · obtain ⟨entries, h⟩ := Field.ofDocument_of_loose h
        exact (Document.forms _).field h
  | column h hprecision => exact throughout_of_isFlat (Column.isFlat_of_infer h) (by omega)

theorem Formed.record {fields : List Field} {nullable : Bool}
    (hnodup : (fields.map Field.name).Nodup) : Formed ⟨.record fields, nullable⟩ :=
  ⟨wellFormed_toNode_iff.2 hnodup, fun h => by cases h⟩

theorem ofDocument_toDocument (h : t.Throughout Formed) : ofDocument t.toDocument = .ok t :=
  ofDocument_toDocument_of_read (h t .self).wellFormed (read_of_formed.1 t h)

/-- A type that a document or a column gives is the type of its own node, and is read again from
what is written for it, and so is each type in it. The fields that are written one after the other
are read again in this order under their names, also as the fields of a record. -/
theorem ofNode_toNode_of_arises :
    (∀ t : UniversalType, t.Arises → ∀ u, Part u t →
        ofNode u.toNode = .ok u ∧ ofDocument u.toDocument = .ok u) ∧
      (∀ v c t, Column.infer v c = .ok t → ofNode t.toNode = .ok t) ∧
      ∀ fields : List Field, (∀ f ∈ fields, f.type.Arises) →
        Field.ofItems (fieldDocuments fields) = .ok fields ∧
          ((fields.map Field.name).Nodup → ∀ nullable,
            ofNode (toNode ⟨.record fields, nullable⟩) = .ok ⟨.record fields, nullable⟩ ∧
              ofDocument (toDocument ⟨.record fields, nullable⟩) =
                .ok ⟨.record fields, nullable⟩) := by
  refine ⟨fun t ht u hu => ?_, fun v c t h => ?_, fun fields hfields => ?_⟩
  · have hthroughout := ht.throughout
    exact ⟨ofNode_toNode (hthroughout u hu).wellFormed,
      ofDocument_toDocument fun w hw => hthroughout w (hw.trans hu)⟩
  · exact ofNode_toNode (wellFormed_toNode_iff.2 (Column.isFlat_of_infer h).isSound)
  · have hthroughout : ∀ f ∈ fields, f.type.Throughout Formed := fun f hf => (hfields f hf).throughout
    refine ⟨read_of_formed.2.1 fields hthroughout, fun hnodup nullable => ?_⟩
    have hformed : Formed ⟨.record fields, nullable⟩ := .record hnodup
    refine ⟨ofNode_toNode hformed.wellFormed, ofDocument_toDocument fun u hu => ?_⟩
    cases hu with
    | self => exact hformed
    | field hf hu => exact hthroughout _ hf u hu

theorem ofNode_toNode_of_nested :
    ∃ orders, ofDocument (.map [("type", .text "Record"), ("fields", .list [
          .map [("name", .text "id"), ("type", .text "LONG")],
          .map [("type", .text "array"), ("name", .text "amounts"), ("items", .map
            [("type", .text "bytes"), ("logicalType", .text "decimal"), ("precision", .int 10)])]])]) =
        .ok orders ∧
      Part ⟨.decimal 10 0, false⟩ orders ∧
      ofNode orders.toNode = .ok orders ∧ ofDocument orders.toDocument = .ok orders ∧
      Column.infer .oracle { name := "RATE", code := StandardType.numeric.code,
                             typeName := "NUMBER", precision := 5, scale := 2 } =
        .ok ⟨.decimal 5 2, true⟩ ∧
      ofNode (toNode ⟨.decimal 5 2, true⟩) = .ok ⟨.decimal 5 2, true⟩ ∧
      Field.ofItems (fieldDocuments [⟨"orders", orders⟩, ⟨"rate", ⟨.decimal 5 2, true⟩⟩]) =
        .ok [⟨"orders", orders⟩, ⟨"rate", ⟨.decimal 5 2, true⟩⟩] ∧
      ofDocument
          (toDocument ⟨.record [⟨"orders", orders⟩, ⟨"rate", ⟨.decimal 5 2, true⟩⟩], true⟩) =
        .ok ⟨.record [⟨"orders", orders⟩, ⟨"rate", ⟨.decimal 5 2, true⟩⟩], true⟩ := by
  obtain ⟨htype, hcolumn, hfields⟩ := ofNode_toNode_of_arises
  have hread : ofDocument (.map [("type", .text "Record"), ("fields", .list [
          .map [("name", .text "id"), ("type", .text "LONG")],
          .map [("type", .text "array"), ("name", .text "amounts"), ("items", .map
            [("type", .text "bytes"), ("logicalType", .text "decimal"), ("precision", .int 10)])]])]) =
        .ok ⟨.record [⟨"id", ⟨.long, false⟩⟩,
          ⟨"amounts", ⟨.array ⟨.decimal 10 0, false⟩, false⟩⟩], false⟩ := by
    simp only [ofDocument, Node.ofEntries, Node.setMember, Node.setMember_name, Field.ofItems,
      Field.ofDocument]
    rfl
  have hinfer : Column.infer .oracle { name := "RATE", code := StandardType.numeric.code,
                                       typeName := "NUMBER", precision := 5, scale := 2 } =
      .ok ⟨.decimal 5 2, true⟩ := rfl
  have horders := Arises.document hread
  have hpair := hfields [⟨"orders", _⟩, ⟨"rate", _⟩]
    (List.forall_mem_cons.2 ⟨horders, List.forall_mem_singleton.2 (.column hinfer (by decide))⟩)
  obtain ⟨hnode, hdocument⟩ := htype _ horders _ .self
  exact ⟨_, hread, .field (.tail _ (.head _)) (.item .self), hnode, hdocument, hinfer,
    hcolumn _ _ _ hinfer, hpair.1, (hpair.2 (by decide) true).2⟩

end UniversalType

end TableTransfer
