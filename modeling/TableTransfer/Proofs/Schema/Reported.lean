import TableTransfer.Proofs.Inference.Validated

namespace TableTransfer

namespace Failure

def nulls (role : Role) (f : Field) (c : Column) : Failure :=
  match role with
  | .source => .nullRead f c
  | .sink => .nullWritten f c

theorem cause_nulls (role : Role) (f : Field) (c : Column) :
    (nulls role f c).cause = role.cause := by
  cases role <;> rfl

end Failure

namespace Schema

/-- What is read may be NULL only if the field allows it, and what is written only if the column
does. -/
def AgreesOnNull (role : Role) (f : Field) (c : Column) : Prop :=
  match role with
  | .source => f.type.nullable = true ∨ c.nullable = false
  | .sink => f.type.nullable = false ∨ c.nullable = true

instance (role : Role) (f : Field) (c : Column) : Decidable (AgreesOnNull role f c) :=
  match role with
  | .source => inferInstanceAs (Decidable (_ ∨ _))
  | .sink => inferInstanceAs (Decidable (_ ∨ _))

/-- What is reported of a field: that it has no column, else that the column does not hold its type,
else that they disagree on NULL, else nothing. -/
inductive Reports (rule : CompatibilityRule) (role : Role) (cs : List Column) (f : Field) :
    List Failure → Prop where
  | absent : (∀ c ∈ cs, c.name ≠ f.name) → Reports rule role cs f [.absent role f]
  | mismatch {c : Column} : c ∈ cs → c.name = f.name → f.type.isCompatibleBy rule c = false →
      Reports rule role cs f [.mismatch role f c]
  | nulls {c : Column} : c ∈ cs → c.name = f.name → f.type.isCompatibleBy rule c = true →
      ¬AgreesOnNull role f c → Reports rule role cs f [.nulls role f c]
  | nothing {c : Column} : c ∈ cs → c.name = f.name → f.type.isCompatibleBy rule c = true →
      AgreesOnNull role f c → Reports rule role cs f []

variable {rule : CompatibilityRule} {role : Role} {fields : List Field} {cs : List Column}
  {f : Field} {c : Column} {xs : List Failure}

theorem name_ne_of_last? (h : Column.last? f.name cs = none) (hc : c ∈ cs) : c.name ≠ f.name := by
  have hnone := List.find?_eq_none.1 h c (List.mem_reverse.2 hc)
  exact fun hname => hnone (beq_iff_eq.2 hname)

theorem fieldFailureBy?_of_last? (h : Column.last? f.name cs = some c) :
    fieldFailureBy? rule role cs f =
      if f.type.isCompatibleBy rule c = false then some (.mismatch role f c)
      else if AgreesOnNull role f c then none else some (.nulls role f c) := by
  rw [fieldFailureBy?, h]
  cases role <;> cases hholds : f.type.isCompatibleBy rule c <;>
    cases hfield : f.type.nullable <;> cases hcolumn : c.nullable <;>
      simp [AgreesOnNull, Failure.nulls, hholds, hfield, hcolumn]

theorem reports_fieldFailureBy? (rule : CompatibilityRule) (role : Role) (cs : List Column)
    (f : Field) : Reports rule role cs f (fieldFailureBy? rule role cs f).toList := by
  cases hlast : Column.last? f.name cs with
  | none =>
      rw [fieldFailureBy?, hlast]
      exact .absent fun c hc => name_ne_of_last? hlast hc
  | some c =>
      obtain ⟨hc, hname⟩ := Column.of_last? hlast
      rw [fieldFailureBy?_of_last? hlast]
      split_ifs with hholds hnull
      · exact .mismatch hc hname hholds
      · exact .nothing hc hname (eq_true_of_ne_false hholds) hnull
      · exact .nulls hc hname (eq_true_of_ne_false hholds) hnull

theorem Reports.cause_eq (h : Reports rule role cs f xs) : ∀ x ∈ xs, x.cause = role.cause := by
  cases h with
  | absent _ | mismatch _ _ _ | nothing _ _ _ _ => simp [Failure.absent, Failure.mismatch]
  | nulls _ _ _ _ => simp [Failure.cause_nulls]

/-- With one column of each name, nothing is reported of a field just if its column suits it. -/
theorem Reports.eq_nil_iff (h : Reports rule role cs f xs) (hnodup : (cs.map Column.name).Nodup) :
    xs = [] ↔ ∃ c ∈ cs, c.name = f.name ∧ f.type.isCompatibleBy rule c = true ∧
      AgreesOnNull role f c := by
  have honly {c d : Column} (hc : c ∈ cs) (hd : d ∈ cs) (hcname : c.name = f.name)
      (hdname : d.name = f.name) : c = d :=
    List.inj_on_of_nodup_map hnodup hc hd (hcname.trans hdname.symm)
  cases h with
  | absent hnone =>
      refine iff_of_false (List.cons_ne_nil _ _) ?_
      rintro ⟨c, hc, hname, -⟩
      exact hnone c hc hname
  | mismatch hc hname hholds =>
      refine iff_of_false (List.cons_ne_nil _ _) ?_
      rintro ⟨d, hd, hdname, hholds', -⟩
      cases honly hc hd hname hdname
      rw [hholds] at hholds'
      cases hholds'
  | nulls hc hname _ hnull =>
      refine iff_of_false (List.cons_ne_nil _ _) ?_
      rintro ⟨d, hd, hdname, -, hnull'⟩
      cases honly hc hd hname hdname
      exact hnull hnull'
  | nothing hc hname hholds hnull => exact iff_of_true rfl ⟨_, hc, hname, hholds, hnull⟩

/-- The columns that are left out by a sink: they need a value and no field has their name. -/
def leftOut (role : Role) (fields : List Field) (cs : List Column) : List Column :=
  match role with
  | .source => []
  | .sink => uncovered fields cs

theorem leftOut_sublist (role : Role) (fields : List Field) (cs : List Column) :
    (leftOut role fields cs).Sublist cs := by
  cases role with
  | source => exact List.nil_sublist cs
  | sink => exact List.filter_sublist

theorem mem_leftOut (hc : c ∈ cs) :
    c ∈ leftOut role fields cs ↔
      role = .sink ∧ c.nullable = false ∧ ∀ f ∈ fields, f.name ≠ c.name := by
  cases role with
  | source => simp [leftOut]
  | sink => simp [leftOut, uncovered, hc]

theorem leftOut_eq_nil_iff :
    leftOut role fields cs = [] ↔
      (role = .sink → ∀ c ∈ cs, c.nullable = false → ∃ f ∈ fields, f.name = c.name) := by
  rw [List.eq_nil_iff_forall_not_mem]
  constructor
  · intro hnone hrole c hc hrequired
    by_contra hfree
    push Not at hfree
    exact hnone c ((mem_leftOut hc).2 ⟨hrole, hrequired, hfree⟩)
  · intro hcovered c hmem
    have hc := (leftOut_sublist role fields cs).subset hmem
    obtain ⟨hrole, hrequired, hfree⟩ := (mem_leftOut hc).1 hmem
    obtain ⟨f, hf, hname⟩ := hcovered hrole c hc hrequired
    exact hfree f hf hname

theorem validateBy_eq_flatten (rule : CompatibilityRule) (role : Role) (fields : List Field)
    (cs : List Column) :
    validateBy rule role fields cs =
      (fields.map fun f => (fieldFailureBy? rule role cs f).toList).flatten ++
        (leftOut role fields cs).map .uncovered := by
  rw [← List.flatMap_def, ← List.filterMap_eq_flatMap_toList]
  cases role with
  | source => rfl
  | sink => rfl

theorem cause_of_mem_validateBy {x : Failure} (hx : x ∈ validateBy rule role fields cs) :
    x.cause = role.cause := by
  rw [validateBy_eq_flatten, List.mem_append] at hx
  rcases hx with hx | hx
  · obtain ⟨xs, hxs, hx⟩ := List.mem_flatten.1 hx
    obtain ⟨f, -, rfl⟩ := List.mem_map.1 hxs
    exact (reports_fieldFailureBy? rule role cs f).cause_eq x hx
  · obtain ⟨c, hc, rfl⟩ := List.mem_map.1 hx
    have hmem := (leftOut_sublist role fields cs).subset hc
    obtain ⟨rfl, -⟩ := (mem_leftOut hmem).1 hc
    rfl

theorem validateBy_eq_nil_iff (hnodup : (cs.map Column.name).Nodup) :
    validateBy rule role fields cs = [] ↔
      (∀ f ∈ fields, ∃ c ∈ cs, c.name = f.name ∧ f.type.isCompatibleBy rule c = true ∧
          AgreesOnNull role f c) ∧
        (role = .sink → ∀ c ∈ cs, c.nullable = false → ∃ f ∈ fields, f.name = c.name) := by
  rw [validateBy_eq_flatten, List.append_eq_nil_iff, List.flatten_eq_nil_iff, List.map_eq_nil_iff,
    leftOut_eq_nil_iff, List.forall_mem_map]
  apply and_congr_left'
  refine forall₂_congr fun f _ => ?_
  exact (reports_fieldFailureBy? rule role cs f).eq_nil_iff hnodup

/-- Validation finds nothing just if each field has a column of its name that holds its type and
agrees with it on NULL, and a sink has a field for each column that needs a value. Otherwise it
reports the first problem of each field that has one, in the order of the fields, and then the
columns that a sink leaves out, in their order, all with the cause of the role. -/
theorem validateBy_reports (rule : CompatibilityRule) (role : Role) (fields : List Field)
    {cs : List Column} (hnodup : (cs.map Column.name).Nodup) :
    (validateBy rule role fields cs = [] ↔
      (∀ f ∈ fields, ∃ c ∈ cs, c.name = f.name ∧ f.type.isCompatibleBy rule c = true ∧
          AgreesOnNull role f c) ∧
        (role = .sink → ∀ c ∈ cs, c.nullable = false → ∃ f ∈ fields, f.name = c.name)) ∧
    (∃ (reports : List (List Failure)) (left : List Column),
      validateBy rule role fields cs = reports.flatten ++ left.map .uncovered ∧
      List.Forall₂ (Reports rule role cs) fields reports ∧ left.Sublist cs ∧
      ∀ c ∈ cs, c ∈ left ↔
        role = .sink ∧ c.nullable = false ∧ ∀ f ∈ fields, f.name ≠ c.name) ∧
    ∀ x ∈ validateBy rule role fields cs, x.cause = role.cause := by
  refine ⟨validateBy_eq_nil_iff hnodup, ?_, fun x hx => cause_of_mem_validateBy hx⟩
  refine ⟨_, _, validateBy_eq_flatten rule role fields cs, ?_, leftOut_sublist role fields cs,
    fun c hc => mem_leftOut hc⟩
  rw [List.forall₂_map_right_iff]
  exact List.forall₂_same.2 fun f _ => reports_fieldFailureBy? rule role cs f

def tinyTruths : CompatibilityRule := fun t c =>
  if t.shape.physical = .boolean ∧ c.code.is .tinyInt = true then some true else none

def visitColumns : List Column :=
  [{ name := "ID", code := StandardType.integer.code, typeName := "INT", nullable := false },
    { name := "SEEN", code := StandardType.tinyInt.code, typeName := "TINYINT", nullable := false },
    { name := "AT", code := StandardType.timestamp.code, typeName := "TIMESTAMP",
      nullable := false }]

def visitFields : List Field :=
  [⟨"WHO", ⟨.string, true⟩⟩, ⟨"SEEN", ⟨.boolean, true⟩⟩, ⟨"ID", ⟨.int, false⟩⟩,
    ⟨"SEEN", ⟨.date, true⟩⟩]

/-- A field without a column, one that may be NULL and one of another type, and a column that is
left out. The number has no problem, and the field that may be NULL as well is of the wrong type
first. -/
theorem validateBy_reports_visits :
    (visitColumns.map Column.name).Nodup ∧
      (validateBy tinyTruths .sink visitFields visitColumns).map (fun x => (x.kind, x.field)) =
        [(.missingField, "WHO"), (.nullabilityMismatch, "SEEN"), (.typeMismatch, "SEEN"),
          (.missingField, "AT")] ∧
      ∀ x ∈ validateBy tinyTruths .sink visitFields visitColumns, x.cause = .inputSchema := by
  have hnodup : (visitColumns.map Column.name).Nodup := by decide
  exact ⟨hnodup, rfl, (validateBy_reports tinyTruths .sink visitFields hnodup).2.2⟩

end Schema

end TableTransfer
