import TableTransfer.Proofs.Marshaller.Checked

namespace TableTransfer

namespace Column

variable {vendor : Vendor} {c : Column} {cs before after : List Column} {seen : List String}
  {fields : List Field} {e : Error}

structure Inferable (vendor : Vendor) (cs : List Column) : Prop where
  nodup : (cs.map Column.name).Nodup
  typed : ∀ c ∈ cs, ∃ t, c.infer vendor = .ok t

/-- Why nothing is inferred from a column after others of these names: it has one of them, or a name
of its own and no type. -/
inductive Stops (vendor : Vendor) (seen : List String) (c : Column) : Error → Prop
  | repeated (h : c.name ∈ seen) : Stops vendor seen c (.config (.repeatedColumn c.name))
  | untyped (hfresh : c.name ∉ seen) (htype : ∀ t, c.infer vendor ≠ .ok t) :
      Stops vendor seen c (.unsupportedType c.name c.code.value c.typeName)

theorem inferable_nil : Inferable vendor [] := ⟨List.nodup_nil, by simp⟩

theorem inferable_cons : Inferable vendor (c :: cs) ↔
    (∃ t, c.infer vendor = .ok t) ∧ (∀ d ∈ cs, d.name ≠ c.name) ∧ Inferable vendor cs := by
  constructor
  · rintro ⟨hnodup, htyped⟩
    obtain ⟨hfresh, hnodup⟩ := List.nodup_cons.1 hnodup
    obtain ⟨hc, htyped⟩ := List.forall_mem_cons.1 htyped
    exact ⟨hc, fun d hd heq => hfresh (List.mem_map.2 ⟨d, hd, heq⟩), hnodup, htyped⟩
  · rintro ⟨hc, hfresh, hnodup, htyped⟩
    refine ⟨List.nodup_cons.2 ⟨fun hmem => ?_, hnodup⟩, List.forall_mem_cons.2 ⟨hc, htyped⟩⟩
    obtain ⟨d, hd, heq⟩ := List.mem_map.1 hmem
    exact hfresh d hd heq

theorem infer_eq_error (h : c.infer vendor = .error e) :
    e = .unsupportedType c.name c.code.value c.typeName := by
  simp only [infer] at h
  split at h <;> cases h
  rfl

theorem Stops.of_mem_iff {seen' : List String} (h : Stops vendor seen c e)
    (hseen : ∀ name, name ∈ seen ↔ name ∈ seen') : Stops vendor seen' c e := by
  cases h with
  | repeated h => exact .repeated ((hseen _).1 h)
  | untyped hfresh htype => exact .untyped (fun hmem => hfresh ((hseen _).2 hmem)) htype

theorem mem_map_name_cons {name : String} :
    name ∈ (c :: cs).map Column.name ++ seen ↔ name ∈ cs.map Column.name ++ c.name :: seen := by
  simp only [List.map_cons, List.mem_append, List.mem_cons]
  tauto

theorem inferFrom_eq_error (h : inferFrom vendor seen cs = .error e) :
    ∃ before c after, cs = before ++ c :: after ∧ Inferable vendor before ∧
      (∀ b ∈ before, b.name ∉ seen) ∧ Stops vendor (before.map Column.name ++ seen) c e := by
  induction cs generalizing seen with
  | nil => cases h
  | cons c cs ih =>
      simp only [inferFrom] at h
      split_ifs at h with hseen
      · cases h
        exact ⟨[], c, cs, rfl, inferable_nil, by simp, .repeated (by simpa using hseen)⟩
      · have hfresh : c.name ∉ seen := by simpa using hseen
        obtain htype | ⟨type, htype, h⟩ := bind_eq_error.1 h
        · obtain rfl := infer_eq_error htype
          exact ⟨[], c, cs, rfl, inferable_nil, by simp, .untyped hfresh fun t ht => by
            cases htype.symm.trans ht⟩
        · obtain hrest | ⟨rest, -, h⟩ := bind_eq_error.1 h
          · obtain ⟨before, d, after, rfl, hbefore, hnew, hstops⟩ := ih hrest
            refine ⟨c :: before, d, after, rfl, inferable_cons.2 ⟨⟨type, htype⟩, ?_, hbefore⟩, ?_,
              hstops.of_mem_iff fun _ => mem_map_name_cons.symm⟩
            · exact fun b hb heq => hnew b hb (heq ▸ List.mem_cons_self)
            · exact List.forall_mem_cons.2
                ⟨hfresh, fun b hb hmem => hnew b hb (List.mem_cons_of_mem _ hmem)⟩
          · cases h

theorem inferFrom_of_stops (hbefore : Inferable vendor before)
    (hnew : ∀ b ∈ before, b.name ∉ seen) (h : Stops vendor (before.map Column.name ++ seen) c e) :
    inferFrom vendor seen (before ++ c :: after) = .error e := by
  induction before generalizing seen with
  | nil =>
      cases h with
      | repeated h => exact if_pos (by simpa using h)
      | untyped hfresh htype =>
          have hseen : ¬seen.contains c.name = true := by simpa using hfresh
          rw [List.nil_append, inferFrom, if_neg hseen]
          cases hinfer : c.infer vendor with
          | ok t => exact absurd hinfer (htype t)
          | error fault =>
              obtain rfl := infer_eq_error hinfer
              rfl
  | cons b before ih =>
      obtain ⟨⟨t, ht⟩, hfresh, hbefore⟩ := inferable_cons.1 hbefore
      obtain ⟨hb, hnew⟩ := List.forall_mem_cons.1 hnew
      have hseen : ¬seen.contains b.name = true := by simpa using hb
      have hrest : inferFrom vendor (b.name :: seen) (before ++ c :: after) = .error e :=
        ih hbefore (fun d hd => by simpa using ⟨hfresh d hd, hnew d hd⟩)
          (h.of_mem_iff fun _ => mem_map_name_cons)
      rw [List.cons_append, inferFrom, if_neg hseen, ht, hrest]
      rfl

theorem inferAll_eq_error_iff :
    inferAll vendor cs = .error e ↔ ∃ before c after, cs = before ++ c :: after ∧
      Inferable vendor before ∧ Stops vendor (before.map Column.name) c e := by
  constructor
  · intro h
    obtain ⟨before, c, after, hcs, hbefore, -, hstops⟩ := inferFrom_eq_error h
    rw [List.append_nil] at hstops
    exact ⟨before, c, after, hcs, hbefore, hstops⟩
  · rintro ⟨before, c, after, rfl, hbefore, hstops⟩
    exact inferFrom_of_stops hbefore (by simp) (by rwa [List.append_nil])

theorem Stops.not_inferable (h : Stops vendor (before.map Column.name) c e) :
    ¬Inferable vendor (before ++ c :: after) := by
  rintro ⟨hnodup, htyped⟩
  cases h with
  | repeated h =>
      rw [List.map_append, List.map_cons] at hnodup
      exact (List.nodup_append.1 hnodup).2.2 _ h _ List.mem_cons_self rfl
  | untyped _ htype =>
      obtain ⟨t, ht⟩ := htyped c (List.mem_append_right _ List.mem_cons_self)
      exact htype t ht

theorem exists_inferAll_iff :
    (∃ fields, inferAll vendor cs = .ok fields) ↔ Inferable vendor cs := by
  constructor
  · rintro ⟨fields, h⟩
    obtain ⟨hall, hnodup, -⟩ := inferFrom_eq_ok h
    refine ⟨hnodup, fun c hc => ?_⟩
    obtain ⟨f, -, hf⟩ := exists_right_of_forall₂ hall hc
    exact ⟨f.type, hf.infer_eq⟩
  · intro hinferable
    cases h : inferAll vendor cs with
    | ok fields => exact ⟨fields, rfl⟩
    | error e =>
        obtain ⟨before, c, after, rfl, -, hstops⟩ := inferAll_eq_error_iff.1 h
        exact absurd hinferable hstops.not_inferable

end Column

/-- Each field is bound to the column at its own position, at a parameter counted from one. -/
structure Marshaller.InStep (m : Marshaller) (vendor : Vendor) (fields : List Field)
    (cs : List Column) : Prop where
  vendor_eq : m.vendor = vendor
  fields_eq : m.bindings.map Binding.field = fields
  columns_eq : m.columns = Column.columnTypes cs

namespace Role

variable {vendor : Vendor} {cs : List Column} {fields : List Field}

theorem binds_of_nodup (role : Role) {names : List String} (h : names.Nodup) {name : String}
    {n : Nat} (hn : names[n]? = some name) : role.Binds names name n := by
  have hlt : n < names.length := (List.getElem?_eq_some_iff.1 hn).1
  have honly : ∀ k, names[k]? = some name → n = k := fun k hk =>
    (List.getElem?_inj hlt h).1 (hn.trans hk.symm)
  cases role with
  | source => exact ⟨hn, fun k hk hname => Nat.ne_of_lt hk (honly k hname)⟩
  | sink => exact ⟨hn, fun k hk hname => Nat.ne_of_gt hk (honly k hname)⟩

theorem exists_sound_of_cover (role : Role) (vendor : Vendor) (h : Column.Cover cs fields) :
    ∃ m, role.marshaller vendor fields cs = .ok m ∧ m.Sound vendor fields := by
  cases role with
  | source =>
      obtain ⟨m, hm⟩ := Marshaller.exists_forSource vendor h
      exact ⟨m, hm, Marshaller.sound_forSource hm⟩
  | sink =>
      obtain ⟨m, hm⟩ := Marshaller.exists_forSink vendor h
      exact ⟨m, hm, Marshaller.sound_forSink hm⟩

theorem exists_inStep_of_inferAll (role : Role) (h : Column.inferAll vendor cs = .ok fields) :
    ∃ m, role.marshaller vendor fields cs = .ok m ∧ m.InStep vendor fields cs := by
  obtain ⟨hall, hnodup, -⟩ := Column.inferFrom_eq_ok h
  have hcover := Column.cover_of_inferAll h
  obtain ⟨m, hm, hsound⟩ := role.exists_sound_of_cover vendor hcover
  refine ⟨m, hm, hsound.vendor_eq, hsound.fields_eq, List.ext_getElem? fun n => ?_⟩
  rw [Column.columnTypes, List.getElem?_mapIdx]
  cases hc : cs[n]? with
  | none =>
      have hlength : m.columns.length = cs.length := by
        rw [hall.length_eq, ← hsound.fields_eq, Marshaller.columns, List.length_map, List.length_map]
      rw [Option.map_none, List.getElem?_eq_none_iff, hlength, ← List.getElem?_eq_none_iff, hc]
  | some c =>
      obtain ⟨f, hf, hinfers⟩ := exists_getElem?_of_forall₂ hall hc
      have hname : (cs.map Column.name)[n]? = some f.name := by
        rw [List.getElem?_map, hc, hinfers.name_eq, Option.map_some]
      have hbound := bound?_of_binds (v := vendor) hcover hf (role.binds_of_nodup hnodup hname) hc
      rw [bound?, hm] at hbound
      cases role with
      | source | sink => exact hbound

end Role

namespace Column

/-- Fields are inferred just from columns of distinct names that each have a type: one for each
column, in their order, with the name, the type and the nullability of the column. Both marshallers
for these fields then bind each to its column. Where nothing is inferred, the error is about the
first column that repeats a name or has no type. -/
theorem inferAll_feeds_marshaller (vendor : Vendor) (cs : List Column) :
    ((∃ fields, inferAll vendor cs = .ok fields) ↔ Inferable vendor cs) ∧
      (∀ fields, inferAll vendor cs = .ok fields →
        List.Forall₂ (fun c f => f.name = c.name ∧ f.type.nullable = c.nullable ∧
          c.infer vendor = .ok f.type) cs fields ∧
        (∃ m, Marshaller.forSource vendor fields cs = .ok m ∧ m.InStep vendor fields cs) ∧
        ∃ m, Marshaller.forSink vendor fields cs = .ok m ∧ m.InStep vendor fields cs) ∧
      ∀ e, inferAll vendor cs = .error e ↔ ∃ before c after, cs = before ++ c :: after ∧
        Inferable vendor before ∧ Stops vendor (before.map Column.name) c e := by
  refine ⟨exists_inferAll_iff, fun fields h => ?_, fun e => inferAll_eq_error_iff⟩
  have hall := (inferFrom_eq_ok h).1
  exact ⟨hall.imp fun c f hf => ⟨hf.name_eq, nullable_of_infer hf.infer_eq, hf.infer_eq⟩,
    Role.source.exists_inStep_of_inferAll h, Role.sink.exists_inStep_of_inferAll h⟩

def stock : List Column :=
  [{ name := "ID", code := StandardType.bigInt.code, typeName := "BIGINT UNSIGNED", signed := false,
      nullable := false },
    { name := "LEFT", code := StandardType.integer.code, typeName := "INT" }]

def stockWithShape : List Column :=
  stock ++ [{ name := "SHAPE", code := ⟨1111⟩, typeName := "GEOMETRY" },
    { name := "ID", code := StandardType.integer.code, typeName := "INT" }]

theorem inferAll_feeds_marshaller_stock :
    (∃ fields, inferAll .mysql stock = .ok fields ∧
      ∃ m, Marshaller.forSource .mysql fields stock = .ok m ∧ m.InStep .mysql fields stock) ∧
    inferAll .mysql stockWithShape = .error (.unsupportedType "SHAPE" 1111 "GEOMETRY") ∧
    ∃ before c after, stockWithShape = before ++ c :: after ∧ Inferable .mysql before ∧
      Stops .mysql (before.map Column.name) c (.unsupportedType "SHAPE" 1111 "GEOMETRY") := by
  obtain ⟨-, hfields, -⟩ := inferAll_feeds_marshaller .mysql stock
  obtain ⟨-, -, herror⟩ := inferAll_feeds_marshaller .mysql stockWithShape
  exact ⟨⟨_, rfl, (hfields _ rfl).2.1⟩, rfl, (herror _).1 rfl⟩

end Column

end TableTransfer
