import TableTransfer.Proofs.Field.Missing
import TableTransfer.Proofs.Insert.Statement
import TableTransfer.Proofs.Marshaller.Found

namespace TableTransfer

variable {vendor : Vendor} {fields : List Field} {cs : List Column}

theorem Schema.suits_of_validate {role : Role} (hvalid : validate vendor role fields cs = [])
    (hnodup : (cs.map Column.name).Nodup) {f : Field} (hf : f ∈ fields) {c : Column} (hc : c ∈ cs)
    (hname : c.name = f.name) : Suits vendor role c f := by
  obtain ⟨hnone, -⟩ := (validate_eq_nil_iff role).1 hvalid
  obtain ⟨d, hlast, hsuits⟩ := fieldFailure?_eq_none_iff_suits.1 (hnone f hf)
  rw [← hname, Column.last?_of_nodup hnodup hc] at hlast
  cases hlast
  exact hsuits

theorem Schema.exists_field_of_validate (hvalid : validate vendor .sink fields cs = []) {c : Column}
    (hc : c ∈ cs) (hrequired : c.nullable = false) : ∃ f ∈ fields, f.name = c.name := by
  obtain ⟨-, hcovered⟩ := (validate_eq_nil_iff .sink).1 hvalid
  have hfields := List.filter_eq_nil_iff.1 (hcovered rfl) c hc
  simpa [hrequired] using hfields

namespace Marshaller

variable {m : Marshaller}

section

variable {r : Record} {b : Binding} {p : Param}

theorem writeField_bindsValue {σ : Type} [ParamTarget σ] (h : b.field.type.nullable = false) :
    BindsValue b.column (writeField vendor r b : ParamM σ Unit) := by
  refine .of_check fun v _ => ?_
  cases hv : v.isNull with
  | false => exact Field.write_bindsValue vendor b.field b.column hv
  | true =>
      obtain rfl := Value.eq_null_of_isNull hv
      rw [Field.write_null_of_required h]
      exact .refused _

theorem Fills.isNull (h : Fills vendor r b p) (hrequired : b.field.type.nullable = false) :
    p.value.isNull = false := by
  have hrun := h.runOn_eq {}
  generalize hwork : (writeField vendor r b : ParamM StagedParams Unit) = work at hrun
  have hbinds : BindsValue b.column work := hwork ▸ writeField_bindsValue hrequired
  cases hbinds with
  | bound x hx =>
      cases hrun
      exact hx
  | refused e => cases hrun

end

/-- The parameter is bound for the column of the table. -/
def BindsFor (m : Marshaller) (c : Column) (p : Param) : Prop :=
  ∃ col ∈ m.columns, col.name = c.name ∧ p.index = col.ordinal

section

variable {r : Record} {ps : List Param} {c : Column}

theorem exists_fills_of_bindsFor (hm : forSink vendor fields cs = .ok m)
    (hall : List.Forall₂ (Fills vendor r) m.bindings ps) {p : Param} (hp : p ∈ ps)
    (hfor : m.BindsFor c p) : ∃ b ∈ m.bindings, Fills vendor r b p ∧ b.field.name = c.name := by
  obtain ⟨col, hcol, hname, hindex⟩ := hfor
  obtain ⟨b, hb, hfills⟩ := exists_left_of_forall₂ hall hp
  have hnodup : (m.columns.map ColumnType.ordinal).Nodup := by
    rw [ordinals_forSink hm]
    exact List.nodup_range'
  have hsame : b.column = col :=
    List.inj_on_of_nodup_map hnodup (List.mem_map_of_mem hb) hcol (hfills.index_eq.symm.trans hindex)
  refine ⟨b, hb, hfills, ?_⟩
  rw [← name_eq_forSink hm b hb, hsame, hname]

theorem exists_bindsFor (hm : forSink vendor fields cs = .ok m)
    (hall : List.Forall₂ (Fills vendor r) m.bindings ps) (hfield : ∃ f ∈ fields, f.name = c.name) :
    ∃ p ∈ ps, m.BindsFor c p := by
  obtain ⟨f, hf, hname⟩ := hfield
  rw [← (sound_forSink hm).fields_eq] at hf
  obtain ⟨b, hb, rfl⟩ := List.mem_map.1 hf
  obtain ⟨p, hp, hfills⟩ := exists_right_of_forall₂ hall hb
  exact ⟨p, hp, b.column, List.mem_map_of_mem hb, (name_eq_forSink hm b hb).trans hname,
    hfills.index_eq⟩

theorem binds_of_validate (hnodup : (cs.map Column.name).Nodup)
    (hvalid : Schema.validate vendor .sink fields cs = []) (hm : forSink vendor fields cs = .ok m)
    (hall : List.Forall₂ (Fills vendor r) m.bindings ps) (hc : c ∈ cs)
    (hrequired : c.nullable = false) :
    (∃ p ∈ ps, m.BindsFor c p) ∧ ∀ p ∈ ps, m.BindsFor c p → p.value.isNull = false := by
  refine ⟨exists_bindsFor hm hall (Schema.exists_field_of_validate hvalid hc hrequired), ?_⟩
  intro p hp hfor
  obtain ⟨b, hb, hfills, hname⟩ := exists_fills_of_bindsFor hm hall hp hfor
  apply hfills.isNull
  have hf : b.field ∈ fields := by
    rw [← (sound_forSink hm).fields_eq]
    exact List.mem_map_of_mem hb
  have hsuits := Schema.suits_of_validate hvalid hnodup hf hc hname.symm
  by_contra hnullable
  rw [Bool.not_eq_false] at hnullable
  rw [hsuits.of_sink rfl hnullable] at hrequired
  cases hrequired

end

section

variable {cur : Cursor} {e : Error}

/-- The row is read up to the field of the binding, which fails. -/
structure FailsAt (m : Marshaller) (cur : Cursor) (b : Binding) (e : Error) : Prop where
  before_read : ∃ before after, m.bindings = before ++ b :: after ∧
    ∀ a ∈ before, ∃ v, a.field.read m.vendor cur a.column = .ok v
  read_eq : b.field.read m.vendor cur b.column = .error e

theorem readFrom_eq_error {r : Record} {bs : List Binding}
    (h : readFrom vendor cur r bs = .error e) :
    ∃ before b after, bs = before ++ b :: after ∧
      (∀ a ∈ before, ∃ v, a.field.read vendor cur a.column = .ok v) ∧
      b.field.read vendor cur b.column = .error e := by
  induction bs generalizing r with
  | nil => cases h
  | cons b bs ih =>
      rw [readFrom] at h
      cases hread : b.field.read vendor cur b.column with
      | error fault =>
          rw [hread] at h
          cases h
          exact ⟨[], b, bs, rfl, by simp, hread⟩
      | ok v =>
          rw [hread] at h
          obtain ⟨before, c, after, rfl, hbefore, hc⟩ := ih h
          exact ⟨b :: before, c, after, rfl, List.forall_mem_cons.2 ⟨⟨v, hread⟩, hbefore⟩, hc⟩

theorem exists_failsAt (h : m.readRecord cur = .error e) : ∃ b, m.FailsAt cur b e := by
  obtain ⟨before, b, after, hsplit, hbefore, hb⟩ := readFrom_eq_error h
  exact ⟨b, ⟨before, after, hsplit, hbefore⟩, hb⟩

theorem FailsAt.mem {b : Binding} (h : m.FailsAt cur b e) : b ∈ m.bindings := by
  obtain ⟨before, after, hsplit, -⟩ := h.before_read
  rw [hsplit]
  exact List.mem_append_right _ List.mem_cons_self

end

end Marshaller

/-- The row has NULL only in columns that allow it. -/
def Cursor.NullsAllowed (cur : Cursor) (cs : List Column) : Prop :=
  ∀ i c hint, cs[i]? = some c → cur.value (i + 1) = .ok (.null hint) → c.nullable = true

namespace Marshaller

section

variable {m : Marshaller} {cur : Cursor} {b : Binding} {e : Error}

theorem noReader_of_validate (hnodup : (cs.map Column.name).Nodup)
    (hvalid : Schema.validate vendor .source fields cs = [])
    (hm : forSource vendor fields cs = .ok m) (hnulls : cur.NullsAllowed cs) (hb : b ∈ m.bindings)
    (hread : b.field.read vendor cur b.column = .error e) {hint : NullHint}
    (hcell : cur.value b.column.ordinal = .ok (.null hint)) :
    e = .conversion b.field.name
        (.noReader b.column.typeName b.column.name b.field.type.shape.displayName) ∧
      ∀ cur', b.field.read vendor cur' b.column = .error e := by
  obtain ⟨-, hall⟩ := forSource_eq_ok hm
  obtain ⟨f, hf, rfl, hcolumn⟩ := exists_left_of_forall₂ hall hb
  obtain ⟨i, c, hc, hname, hcol⟩ := sourceColumn?_eq_some hcolumn
  have hallowed : c.nullable = true := by
    apply hnulls i c hint hc
    rw [hcol] at hcell
    exact hcell
  have hsuits := Schema.suits_of_validate hvalid hnodup hf (List.mem_of_getElem? hc) hname
  rcases Field.read_null_of_nullable (hsuits.of_source rfl hallowed) hcell with hnull | hnone
  · rw [hread] at hnull
    cases hnull
  · obtain rfl := Except.error.inj (hread.symm.trans (hnone cur))
    exact ⟨rfl, hnone⟩

/-- What a row fails for under a valid schema: never a NULL that is refused as such, and where the
cell is NULL at all, the field fails in the same way for every row. -/
theorem fails_regardless_of_null (hnodup : (cs.map Column.name).Nodup)
    (hvalid : Schema.validate vendor .source fields cs = [])
    (hm : forSource vendor fields cs = .ok m) (hnulls : cur.NullsAllowed cs) (hb : b ∈ m.bindings)
    (hread : b.field.read vendor cur b.column = .error e) :
    (∀ field column, e ≠ .conversion field (.nullInColumn column)) ∧
      ((∃ hint, cur.value b.column.ordinal = .ok (.null hint)) →
        ∀ cur', b.field.read vendor cur' b.column = .error e) := by
  constructor
  · rintro field column rfl
    obtain ⟨hint, hcell⟩ := Field.exists_null_of_refused hread
    obtain ⟨heq, -⟩ := noReader_of_validate hnodup hvalid hm hnulls hb hread hcell
    cases heq
  · rintro ⟨hint, hcell⟩
    exact (noReader_of_validate hnodup hvalid hm hnulls hb hread hcell).2

end

/-- A schema without problems keeps NULL where it belongs, for columns of distinct names. A record
that is written to a table binds a parameter for each column that is NOT NULL, and no NULL for any of
them. A row of a result set with NULL only in columns that allow it never fails because of a NULL: it
fails at a field whose cell is not NULL, or which fails in the same way for every row. -/
theorem null_contract_of_validate (vendor : Vendor) (fields : List Field) {cs : List Column}
    (hnodup : (cs.map Column.name).Nodup) :
    (Schema.validate vendor .sink fields cs = [] → ∃ m, forSink vendor fields cs = .ok m ∧
      ∀ (r : Record) (s s' : Statement), (m.writeRecord r).runOn s = (.ok (), s') →
        ∃ ps, s' = { s with params := s.params ++ ps } ∧ ∀ c ∈ cs, c.nullable = false →
          (∃ p ∈ ps, m.BindsFor c p) ∧ ∀ p ∈ ps, m.BindsFor c p → p.value.isNull = false) ∧
    (Schema.validate vendor .source fields cs = [] → ∃ m, forSource vendor fields cs = .ok m ∧
      ∀ cur : Cursor, cur.NullsAllowed cs → ∀ e, m.readRecord cur = .error e →
        (∀ field column, e ≠ .conversion field (.nullInColumn column)) ∧
        ∃ b, m.FailsAt cur b e ∧
          ((∃ hint, cur.value b.column.ordinal = .ok (.null hint)) →
            ∀ cur', b.field.read vendor cur' b.column = .error e)) := by
  constructor
  · intro hvalid
    obtain ⟨m, hm⟩ := exists_forSink vendor (Schema.cover_of_check (Schema.check_eq_ok_iff.2 hvalid))
    refine ⟨m, hm, fun r s s' hrun => ?_⟩
    rcases (sound_forSink hm).writeRecord_runOn r s with ⟨e, he⟩ | ⟨ps, hps, hall⟩
    · rw [he] at hrun
      cases hrun
    · rw [hps] at hrun
      cases hrun
      exact ⟨ps, rfl, fun c hc => binds_of_validate hnodup hvalid hm hall hc⟩
  · intro hvalid
    obtain ⟨m, hm⟩ := exists_forSource vendor (Schema.cover_of_check (Schema.check_eq_ok_iff.2 hvalid))
    refine ⟨m, hm, fun cur hnulls e he => ?_⟩
    obtain ⟨b, hfails⟩ := exists_failsAt he
    have hread := hfails.read_eq
    rw [(sound_forSource hm).vendor_eq] at hread
    obtain ⟨hnever, hsame⟩ := fails_regardless_of_null hnodup hvalid hm hnulls hfails.mem hread
    exact ⟨hnever, b, hfails, hsame⟩

def orderColumns : List Column :=
  [{ name := "ID", code := StandardType.integer.code, typeName := "INT", nullable := false },
    { name := "PAID", code := StandardType.date.code, typeName := "DATE" },
    { name := "NOTE", code := StandardType.varchar.code, typeName := "VARCHAR" }]

def orderFields : List Field := [⟨"NOTE", ⟨.string, true⟩⟩, ⟨"ID", ⟨.int, false⟩⟩]

theorem nullsAllowed_unpaid_order :
    (Cursor.single orderColumns [.i32 7, .null .date, .null .string]).NullsAllowed orderColumns := by
  intro i c hint hc hcell
  rcases i with _ | _ | _ | i
  · cases hcell
  · cases hc
    rfl
  · cases hc
    rfl
  · cases hc

theorem null_contract_orders :
    (orderColumns.map Column.name).Nodup ∧
      (∀ role, Schema.validate .mysql role orderFields orderColumns = []) ∧
      (∃ m, forSink .mysql orderFields orderColumns = .ok m ∧
        ∃ s' : Statement, (m.writeRecord (.ofList [("ID", .int 7)])).runOn {} = (.ok (), s') ∧
          ∃ p ∈ s'.params, p.index = 2 ∧ p.value.isNull = false) ∧
      ∃ m, forSource .mysql orderFields orderColumns = .ok m ∧ ∀ field column,
        m.readRecord (.single orderColumns [.i32 7, .null .date, .null .string]) ≠
          .error (.conversion field (.nullInColumn column)) := by
  have hnodup : (orderColumns.map Column.name).Nodup := by decide
  have hvalid : ∀ role, Schema.validate .mysql role orderFields orderColumns = [] := by
    intro role
    cases role <;> rfl
  obtain ⟨hsink, hsource⟩ := null_contract_of_validate .mysql orderFields hnodup
  refine ⟨hnodup, hvalid, ?_, ?_⟩
  · obtain ⟨m, hm, hwrites⟩ := hsink (hvalid .sink)
    refine ⟨m, hm, ?_⟩
    cases hm
    obtain ⟨ps, hps, hbinds⟩ := hwrites (.ofList [("ID", .int 7)]) {} _ rfl
    obtain ⟨⟨p, hp, hfor⟩, hvalue⟩ := hbinds _ List.mem_cons_self rfl
    refine ⟨_, rfl, p, ?_, ?_, hvalue p hp hfor⟩
    · rw [hps]
      exact hp
    · obtain ⟨col, hcol, hname, hindex⟩ := hfor
      rcases List.mem_cons.1 hcol with rfl | hcol
      · exact absurd hname (by decide)
      · obtain rfl := List.mem_singleton.1 hcol
        exact hindex
  · obtain ⟨m, hm, hreads⟩ := hsource (hvalid .source)
    refine ⟨m, hm, fun field column he => ?_⟩
    exact (hreads _ nullsAllowed_unpaid_order _ he).1 field column rfl

end Marshaller

end TableTransfer
