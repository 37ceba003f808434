import TableTransfer.Marshaller
import TableTransfer.Proofs.Pairing

namespace TableTransfer

namespace Marshaller

variable {vendor : Vendor} {fields : List Field} {cs : List Column} {m : Marshaller}

theorem sourceColumn?_eq_some {name : String} {col : ColumnType}
    (h : sourceColumn? cs name = some col) :
    ∃ (i : Nat) (c : Column), cs[i]? = some c ∧ c.name = name ∧ col = c.columnType (i + 1) := by
  have hname := List.find?_some h
  have hmem := List.mem_reverse.1 (List.mem_of_find?_eq_some h)
  obtain ⟨i, hi, rfl⟩ := List.mem_mapIdx.1 hmem
  exact ⟨i, cs[i], List.getElem?_eq_getElem hi, beq_iff_eq.1 hname, rfl⟩

theorem ordinal_ne_zero_of_sourceColumn? {name : String} {c : ColumnType}
    (h : sourceColumn? cs name = some c) : c.ordinal ≠ 0 := by
  obtain ⟨i, column, -, -, rfl⟩ := sourceColumn?_eq_some h
  exact Nat.succ_ne_zero i

theorem ordinal_of_sinkColumn? {name : String} {ordinal : Nat} {c : ColumnType}
    (h : sinkColumn? cs ordinal name = some c) : c.ordinal = ordinal := by
  obtain ⟨column, _, rfl⟩ := Option.map_eq_some_iff.1 h
  rfl

theorem forSource_eq_ok (h : forSource vendor fields cs = .ok m) :
    m.vendor = vendor ∧
      List.Forall₂ (fun f b => b.field = f ∧ sourceColumn? cs f.name = some b.column)
        fields m.bindings := by
  obtain ⟨bindings, hb, h⟩ := bind_eq_ok.1 h
  cases h
  refine ⟨rfl, (forall₂_of_mapM hb).imp fun f b hf => ?_⟩
  split at hf
  · rename_i c hc
    cases hf
    exact ⟨rfl, hc⟩
  · cases hf

theorem sinkBindings_eq_ok {ordinal : Nat} {bindings : List Binding}
    (h : sinkBindings cs ordinal fields = .ok bindings) :
    List.Forall₂ (fun f b => b.field = f ∧ ∃ i, sinkColumn? cs i f.name = some b.column)
        fields bindings ∧
      bindings.map (fun b => b.column.ordinal) = List.range' ordinal fields.length := by
  induction fields generalizing ordinal bindings with
  | nil =>
      cases h
      exact ⟨.nil, rfl⟩
  | cons f fields ih =>
      rw [sinkBindings] at h
      split at h
      · rename_i c hc
        obtain ⟨rest, hrest, h⟩ := bind_eq_ok.1 h
        cases h
        obtain ⟨hall, hords⟩ := ih hrest
        refine ⟨.cons ⟨rfl, ordinal, hc⟩ hall, ?_⟩
        rw [List.map_cons, hords, ordinal_of_sinkColumn? hc, List.length_cons, List.range'_succ]
      · cases h

theorem forSink_eq_ok (h : forSink vendor fields cs = .ok m) :
    m.vendor = vendor ∧ sinkBindings cs 1 fields = .ok m.bindings := by
  obtain ⟨bindings, hb, h⟩ := bind_eq_ok.1 h
  cases h
  exact ⟨rfl, hb⟩

theorem ordinals_forSink (h : forSink vendor fields cs = .ok m) :
    m.columns.map ColumnType.ordinal = List.range' 1 fields.length := by
  rw [columns, List.map_map]
  exact (sinkBindings_eq_ok (forSink_eq_ok h).2).2

section

variable {n : Nat} {f : Field}

theorem getElem?_columns_forSource (h : forSource vendor fields cs = .ok m)
    (hf : fields[n]? = some f) : m.columns[n]? = sourceColumn? cs f.name := by
  obtain ⟨b, hb, -, hcolumn⟩ := exists_getElem?_of_forall₂ (forSource_eq_ok h).2 hf
  rw [columns, List.getElem?_map, hb, Option.map_some, hcolumn]

theorem getElem?_columns_sinkBindings {ordinal : Nat} {bindings : List Binding}
    (h : sinkBindings cs ordinal fields = .ok bindings) (hf : fields[n]? = some f) :
    (bindings.map Binding.column)[n]? = sinkColumn? cs (ordinal + n) f.name := by
  induction fields generalizing ordinal bindings n with
  | nil => cases hf
  | cons g fields ih =>
      rw [sinkBindings] at h
      split at h
      · rename_i c hc
        obtain ⟨rest, hrest, h⟩ := bind_eq_ok.1 h
        cases h
        cases n with
        | zero =>
            cases hf
            exact hc.symm
        | succ n =>
            have hshift : ordinal + (n + 1) = ordinal + 1 + n := by omega
            rw [hshift]
            exact ih hrest hf
      · cases h

theorem getElem?_columns_forSink (h : forSink vendor fields cs = .ok m)
    (hf : fields[n]? = some f) : m.columns[n]? = sinkColumn? cs (n + 1) f.name := by
  rw [Nat.add_comm]
  exact getElem?_columns_sinkBindings (forSink_eq_ok h).2 hf

end

structure Sound (m : Marshaller) (vendor : Vendor) (fields : List Field) : Prop where
  vendor_eq : m.vendor = vendor
  fields_eq : m.bindings.map Binding.field = fields
  ordinal_ne_zero : ∀ b ∈ m.bindings, b.column.ordinal ≠ 0

theorem sound_forSource (h : forSource vendor fields cs = .ok m) : Sound m vendor fields := by
  obtain ⟨hvendor, hall⟩ := forSource_eq_ok h
  refine ⟨hvendor, (map_eq_map_of_forall₂ (f := id) hall fun h => h.1.symm).symm.trans
    (List.map_id _), fun b hb => ?_⟩
  obtain ⟨f, -, hf⟩ := exists_left_of_forall₂ hall hb
  exact ordinal_ne_zero_of_sourceColumn? hf.2

theorem sound_forSink (h : forSink vendor fields cs = .ok m) : Sound m vendor fields := by
  obtain ⟨hvendor, hbindings⟩ := forSink_eq_ok h
  obtain ⟨hall, hords⟩ := sinkBindings_eq_ok hbindings
  refine ⟨hvendor, (map_eq_map_of_forall₂ (f := id) hall fun h => h.1.symm).symm.trans
    (List.map_id _), fun b hb hzero => ?_⟩
  have hmem := List.mem_map_of_mem (f := fun b : Binding => b.column.ordinal) hb
  rw [hords, List.mem_range'_1] at hmem
  omega

end Marshaller

end TableTransfer
