import TableTransfer.Proofs.Marshaller.BindsOnce
import TableTransfer.Proofs.Marshaller.Columns

namespace TableTransfer

theorem BindsOnce.runOn_staged {P : SqlValue → Prop} {c : ColumnType}
    {work : ParamM StagedParams Unit} (h : BindsOnce P c work) :
    (∃ e, ∀ s, work.runOn s = (.error e, s)) ∨
      ∃ x, ∀ s, work.runOn s = (.ok (), ⟨s.params ++ [⟨c.ordinal, x⟩]⟩) := by
  cases h with
  | bound x _ => exact .inr ⟨x, fun _ => rfl⟩
  | refused e => exact .inl ⟨e, fun _ => rfl⟩

namespace Marshaller

/-- The parameter is the one that the field alone binds for its value in the record. -/
structure Fills (vendor : Vendor) (r : Record) (b : Binding) (p : Param) : Prop where
  index_eq : p.index = b.column.ordinal
  runOn_eq : ∀ s : StagedParams,
    (writeField vendor r b).runOn s = (.ok (), ⟨s.params ++ [p]⟩)

theorem writeField_runOn (vendor : Vendor) (r : Record) (b : Binding) :
    (∃ e, ∀ s : StagedParams, (writeField vendor r b).runOn s = (.error e, s)) ∨
      ∃ p, Fills vendor r b p := by
  have honce : BindsOnce (fun _ => True) b.column
      (writeField vendor r b : ParamM StagedParams Unit) :=
    .of_check fun value _ =>
      (Field.write_bindsOnce vendor b.field b.column value).mono fun _ _ => trivial
  rcases honce.runOn_staged with h | ⟨x, h⟩
  · exact .inl h
  · exact .inr ⟨⟨b.column.ordinal, x⟩, rfl, h⟩

theorem writeFields_runOn (vendor : Vendor) (r : Record) (bs : List Binding) (s : StagedParams) :
    (∃ e s', (writeFields vendor r bs).runOn s = (.error e, s')) ∨
      ∃ ps, (writeFields vendor r bs).runOn s = (.ok (), ⟨s.params ++ ps⟩) ∧
        List.Forall₂ (Fills vendor r) bs ps := by
  induction bs generalizing s with
  | nil => exact .inr ⟨[], by simp [writeFields], .nil⟩
  | cons b bs ih =>
      rw [writeFields, ParamM.runOn_bind]
      rcases writeField_runOn vendor r b with ⟨e, he⟩ | ⟨p, hp⟩
      · exact .inl ⟨e, s, by rw [he s]⟩
      · rw [hp.runOn_eq s]
        dsimp only
        rcases ih ⟨s.params ++ [p]⟩ with h | ⟨ps, hps, hall⟩
        · exact .inl h
        · refine .inr ⟨p :: ps, ?_, .cons hp hall⟩
          rw [hps, List.append_assoc]
          rfl

theorem stage_eq_ok (m : Marshaller) {r : Record} {ps : List Param} (h : m.stage r = .ok ps) :
    List.Forall₂ (Fills m.vendor r) m.bindings ps := by
  simp only [stage] at h
  rcases writeFields_runOn m.vendor r m.bindings {} with ⟨e, s, hs⟩ | ⟨qs, hqs, hall⟩
  · rw [hs] at h
    cases h
  · rw [hqs] at h
    cases h
    exact hall

theorem bindAll_runOn (s : Statement) (ps : List Param) (h : ∀ p ∈ ps, p.index ≠ 0) :
    (bindAll ps).runOn s = (.ok (), { s with params := s.params ++ ps }) := by
  induction ps generalizing s with
  | nil => simp [bindAll]
  | cons p ps ih =>
      obtain ⟨hp, hps⟩ := List.forall_mem_cons.1 h
      rw [bindAll, ParamM.runOn_bind, Statement.runOn_bind s hp]
      dsimp only
      rw [ih _ hps, List.append_assoc]
      rfl

theorem map_index_of_fills {vendor : Vendor} {r : Record} {bs : List Binding} {ps : List Param}
    (h : List.Forall₂ (Fills vendor r) bs ps) :
    ps.map Param.index = bs.map fun b => b.column.ordinal :=
  (map_eq_map_of_forall₂ h fun hp => hp.index_eq.symm).symm

variable {vendor : Vendor} {fields : List Field} {cs : List Column} {m : Marshaller}

theorem writeRecord_of_stage_error {r : Record} {e : Error} (h : m.stage r = .error e)
    (s : Statement) : (m.writeRecord r).runOn s = (.error e, s) := by
  rw [writeRecord, ParamM.runOn_bind, ParamM.runOn_lift, h]

theorem Sound.index_ne_zero (hm : Sound m vendor fields) {r : Record} {ps : List Param}
    (h : m.stage r = .ok ps) : ∀ p ∈ ps, p.index ≠ 0 := by
  intro p hp
  obtain ⟨b, hb, hfills⟩ := exists_left_of_forall₂ (stage_eq_ok m h) hp
  rw [hfills.index_eq]
  exact hm.ordinal_ne_zero b hb

theorem Sound.writeRecord_of_stage (hm : Sound m vendor fields) {r : Record} {ps : List Param}
    (h : m.stage r = .ok ps) (s : Statement) :
    (m.writeRecord r).runOn s = (.ok (), { s with params := s.params ++ ps }) := by
  rw [writeRecord, ParamM.runOn_bind, ParamM.runOn_lift, h]
  exact bindAll_runOn s ps (hm.index_ne_zero h)

theorem Sound.writeRecord_runOn (hm : Sound m vendor fields) (r : Record) (s : Statement) :
    (∃ e, (m.writeRecord r).runOn s = (.error e, s)) ∨
      ∃ ps, (m.writeRecord r).runOn s = (.ok (), { s with params := s.params ++ ps }) ∧
        List.Forall₂ (Fills vendor r) m.bindings ps := by
  cases hps : m.stage r with
  | error e => exact .inl ⟨e, writeRecord_of_stage_error hps s⟩
  | ok ps =>
      exact .inr ⟨ps, hm.writeRecord_of_stage hps s, hm.vendor_eq ▸ stage_eq_ok m hps⟩

/-- Writing a record leaves the statement as it was or binds the parameters of all fields, each
at the parameter of its own column and nothing else. The parameters of a table are numbered in
the order of the fields. -/
theorem writeRecord_whole_or_unchanged
    (hm : forSource vendor fields cs = .ok m ∨ forSink vendor fields cs = .ok m)
    (r : Record) (s : Statement) :
    m.bindings.map Binding.field = fields ∧
      ((∃ e, (m.writeRecord r).runOn s = (.error e, s)) ∨
        ∃ ps, (m.writeRecord r).runOn s = (.ok (), { s with params := s.params ++ ps }) ∧
          ps.length = fields.length ∧
          ps.map Param.index = m.columns.map ColumnType.ordinal ∧
          List.Forall₂ (Fills vendor r) m.bindings ps) ∧
      (forSink vendor fields cs = .ok m →
        m.columns.map ColumnType.ordinal = List.range' 1 fields.length) := by
  have hsound : Sound m vendor fields := hm.elim sound_forSource sound_forSink
  refine ⟨hsound.fields_eq, ?_, ordinals_forSink⟩
  rcases hsound.writeRecord_runOn r s with he | ⟨ps, hps, hall⟩
  · exact .inl he
  · have hlength : ps.length = fields.length := by
      rw [← hall.length_eq, ← hsound.fields_eq, List.length_map]
    refine .inr ⟨ps, hps, hlength, ?_, hall⟩
    rw [map_index_of_fills hall, columns, List.map_map]
    rfl

theorem writeRecord_unchanged_below_unsigned :
    ∃ m, forSink .mysql [⟨"ID", ⟨.int, false⟩⟩, ⟨"STOCK", ⟨.long, false⟩⟩]
        [{ name := "STOCK", code := StandardType.integer.code, typeName := "INT UNSIGNED" },
          { name := "ID", code := StandardType.integer.code, typeName := "INT" }] = .ok m ∧
      ∃ e, (m.writeRecord (.ofList [("ID", .int 7), ("STOCK", .long (-1))])).runOn
          { params := [⟨1, .bool true⟩] } =
        (.error e, ({ params := [⟨1, .bool true⟩] } : Statement)) := by
  generalize hm : forSink .mysql _ _ = outcome
  cases outcome with
  | error e => cases hm
  | ok m =>
      refine ⟨m, rfl, ?_⟩
      rcases (writeRecord_whole_or_unchanged (.inr hm) _ _).2.1 with he | ⟨ps, hps, -⟩
      · exact he
      · cases hm
        cases hps

end Marshaller

end TableTransfer
