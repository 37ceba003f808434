import TableTransfer.Proofs.Inference.Accepted
import TableTransfer.Proofs.Keyed
import TableTransfer.Proofs.Pairing

namespace TableTransfer

namespace Column

variable {vendor : Vendor} {cs : List Column}

structure Infers (vendor : Vendor) (c : Column) (f : Field) : Prop where
  name_eq : f.name = c.name
  infer_eq : c.infer vendor = .ok f.type

theorem inferFrom_eq_ok {seen : List String} {fields : List Field}
    (h : inferFrom vendor seen cs = .ok fields) :
    List.Forall₂ (Infers vendor) cs fields ∧ (cs.map Column.name).Nodup ∧
      ∀ c ∈ cs, c.name ∉ seen := by
  induction cs generalizing seen fields with
  | nil =>
      cases h
      exact ⟨.nil, List.nodup_nil, by simp⟩
  | cons c cs ih =>
      simp only [inferFrom] at h
      split_ifs at h with hseen
      obtain ⟨type, htype, h⟩ := bind_eq_ok.1 h
      obtain ⟨rest, hrest, h⟩ := bind_eq_ok.1 h
      cases h
      obtain ⟨hall, hnodup, hfresh⟩ := ih hrest
      refine ⟨.cons ⟨rfl, htype⟩ hall, ?_, ?_⟩
      · rw [List.map_cons, List.nodup_cons]
        refine ⟨fun hmem => ?_, hnodup⟩
        obtain ⟨d, hd, hname⟩ := List.mem_map.1 hmem
        exact hfresh d hd (hname ▸ List.mem_cons_self)
      · refine List.forall_mem_cons.2 ⟨by simpa using hseen, fun d hd hmem => ?_⟩
        exact hfresh d hd (List.mem_cons_of_mem _ hmem)

theorem nullable_of_infer {c : Column} {t : UniversalType} (h : c.infer vendor = .ok t) :
    t.nullable = c.nullable := by
  simp only [infer] at h
  split at h <;> cases h
  rfl

theorem of_last? {name : String} {c : Column} (h : last? name cs = some c) :
    c ∈ cs ∧ c.name = name :=
  ⟨List.mem_reverse.1 (List.mem_of_find?_eq_some h), by simpa using List.find?_some h⟩

theorem last?_of_nodup (hnodup : (cs.map Column.name).Nodup) {c : Column} (hc : c ∈ cs) :
    last? c.name cs = some c := by
  have hreverse : (cs.reverse.map Column.name).Nodup :=
    (cs.reverse_perm.map Column.name).nodup_iff.2 hnodup
  exact (find?_eq_some_iff_of_nodup hreverse).2 ⟨List.mem_reverse.2 hc, rfl⟩

end Column

namespace Schema

variable {vendor : Vendor} {cs : List Column} {fields : List Field}

/-- The column holds the type of the field, and NULL does not get to where it is not expected: from
the column to the field of a source, from the field to the column of a sink. -/
structure Suits (vendor : Vendor) (role : Role) (c : Column) (f : Field) : Prop where
  isCompatible : f.type.isCompatible vendor c = true
  of_source : role = .source → c.nullable = true → f.type.nullable = true
  of_sink : role = .sink → f.type.nullable = true → c.nullable = true

theorem fieldFailure?_eq_none_iff_suits {role : Role} {f : Field} :
    fieldFailure? vendor role cs f = none ↔
      ∃ c, Column.last? f.name cs = some c ∧ Suits vendor role c f := by
  rw [fieldFailure?, fieldFailureBy?]
  cases Column.last? f.name cs with
  | none => simp
  | some c =>
      have hsuits : Suits vendor role c f ↔ f.type.isCompatibleBy vendor.accepts? c = true ∧
          (role = .source → c.nullable = true → f.type.nullable = true) ∧
          (role = .sink → f.type.nullable = true → c.nullable = true) :=
        ⟨fun h => ⟨h.isCompatible, h.of_source, h.of_sink⟩, fun h => ⟨h.1, h.2.1, h.2.2⟩⟩
      simp only [Option.some.injEq, exists_eq_left', hsuits]
      cases f.type.isCompatibleBy vendor.accepts? c <;> cases role <;> cases f.type.nullable <;>
        cases c.nullable <;> simp

theorem fieldFailure?_eq_none_iff (role : Role) {c : Column} {f : Field}
    (hlast : Column.last? f.name cs = some c) (h : c.Infers vendor f) :
    fieldFailure? vendor role cs f = none ↔ f.type.isCompatible vendor c = true := by
  have hnull := Column.nullable_of_infer h.infer_eq
  simp only [fieldFailure?, fieldFailureBy?, UniversalType.isCompatible]
  rw [hlast]
  cases hholds : f.type.isCompatibleBy vendor.accepts? c <;> cases role <;> simp [hholds, hnull]

theorem fieldFailure?_of_infers (hv : vendor ≠ .mysql) (role : Role) {c : Column} {f : Field}
    (hlast : Column.last? f.name cs = some c) (h : c.Infers vendor f) :
    fieldFailure? vendor role cs f = none :=
  (fieldFailure?_eq_none_iff role hlast h).2 (Column.isCompatible_of_infer hv h.infer_eq)

theorem uncovered_of_infers (h : List.Forall₂ (Column.Infers vendor) cs fields) :
    uncovered fields cs = [] := by
  rw [uncovered, List.filter_eq_nil_iff]
  intro c hc
  obtain ⟨f, hmem, hf⟩ := exists_right_of_forall₂ h hc
  have hany : fields.any (fun f => f.name == c.name) = true :=
    List.any_eq_true.2 ⟨f, hmem, beq_iff_eq.2 hf.name_eq⟩
  simp [hany]

theorem validate_eq_nil_iff (role : Role) :
    validate vendor role fields cs = [] ↔
      (∀ f ∈ fields, fieldFailure? vendor role cs f = none) ∧
        (role = .sink → uncovered fields cs = []) := by
  cases role <;> simp [validate, validateBy, fieldFailure?, List.filterMap_eq_nil_iff]

/-- A schema that is inferred from columns is valid for them just if each column is said to hold
the type that it gives. -/
theorem validate_inferred_eq_nil_iff (h : Column.inferAll vendor cs = .ok fields) (role : Role) :
    validate vendor role fields cs = [] ↔
      ∀ c ∈ cs, ∀ t, c.infer vendor = .ok t → t.isCompatible vendor c = true := by
  obtain ⟨hall, hnodup, -⟩ := Column.inferFrom_eq_ok h
  have hfailure : ∀ {c f}, c ∈ cs → Column.Infers vendor c f →
      (fieldFailure? vendor role cs f = none ↔ f.type.isCompatible vendor c = true) := by
    intro c f hc hinfers
    have hlast := Column.last?_of_nodup hnodup hc
    rw [← hinfers.name_eq] at hlast
    exact fieldFailure?_eq_none_iff role hlast hinfers
  rw [validate_eq_nil_iff, and_iff_left fun _ => uncovered_of_infers hall]
  constructor
  · intro hnone c hc t ht
    obtain ⟨f, hf, hinfers⟩ := exists_right_of_forall₂ hall hc
    obtain rfl : f.type = t := Except.ok.inj (hinfers.infer_eq.symm.trans ht)
    exact (hfailure hc hinfers).1 (hnone f hf)
  · intro hholds f hf
    obtain ⟨c, hc, hinfers⟩ := exists_left_of_forall₂ hall hf
    exact (hfailure hc hinfers).2 (hholds c hc f.type hinfers.infer_eq)

/-- Outside MySQL a schema that is inferred from columns is valid for them, for reading and for
writing. -/
theorem validate_inferAll (hv : vendor ≠ .mysql) (h : Column.inferAll vendor cs = .ok fields)
    (role : Role) : validate vendor role fields cs = [] := by
  obtain ⟨hall, hnodup, -⟩ := Column.inferFrom_eq_ok h
  have hfields : ∀ f ∈ fields, fieldFailure? vendor role cs f = none := by
    intro f hf
    obtain ⟨c, hc, hinfers⟩ := exists_left_of_forall₂ hall hf
    have hlast := Column.last?_of_nodup hnodup hc
    rw [← hinfers.name_eq] at hlast
    exact fieldFailure?_of_infers hv role hlast hinfers
  exact (validate_eq_nil_iff role).2 ⟨hfields, fun _ => uncovered_of_infers hall⟩

theorem validate_inferAll_oracle :
    ∃ fields, Column.inferAll .oracle
        [{ name := "NOTE", code := StandardType.numeric.code, typeName := "LONG", precision := 10 },
          { name := "SEEN", code := ⟨-102⟩, typeName := "TIMESTAMP", nullable := false }] =
        .ok fields ∧
      validate .oracle .sink fields
        [{ name := "NOTE", code := StandardType.numeric.code, typeName := "LONG", precision := 10 },
          { name := "SEEN", code := ⟨-102⟩, typeName := "TIMESTAMP", nullable := false }] = [] :=
  ⟨_, rfl, validate_inferAll (by decide) rfl .sink⟩

end Schema

end TableTransfer
