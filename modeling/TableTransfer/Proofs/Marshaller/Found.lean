import TableTransfer.Proofs.Inference.Validated
import TableTransfer.Proofs.Marshaller.Columns
import TableTransfer.Transfer.Source

namespace TableTransfer

variable {vendor : Vendor} {fields : List Field} {cs : List Column}

def Column.Cover (cs : List Column) (fields : List Field) : Prop :=
  ∀ f ∈ fields, ∃ c ∈ cs, c.name = f.name

theorem Schema.check_eq_ok_iff {role : Role} :
    check vendor role fields cs = .ok () ↔ validate vendor role fields cs = [] := by
  rw [check]
  split
  · rename_i h
    simp [h]
  · rename_i hne
    exact iff_of_false nofun hne

theorem Schema.cover_of_check {role : Role} (h : check vendor role fields cs = .ok ()) :
    Column.Cover cs fields := by
  obtain ⟨hnone, -⟩ := (validate_eq_nil_iff role).1 (check_eq_ok_iff.1 h)
  intro f hf
  obtain ⟨c, hlast, -⟩ := fieldFailure?_eq_none_iff_suits.1 (hnone f hf)
  exact ⟨c, Column.of_last? hlast⟩

theorem Column.cover_of_inferAll (h : inferAll vendor cs = .ok fields) : Cover cs fields := by
  obtain ⟨hall, -, -⟩ := inferFrom_eq_ok h
  intro f hf
  obtain ⟨c, hc, hinfers⟩ := exists_left_of_forall₂ hall hf
  exact ⟨c, hc, hinfers.name_eq.symm⟩

theorem Source.cover_of_fields {s : Source} (h : s.fields cs = .ok fields) :
    Column.Cover cs fields := by
  rw [Source.fields] at h
  split at h
  · obtain ⟨⟨⟩, hcheck, h⟩ := bind_eq_ok.1 h
    cases h
    exact Schema.cover_of_check hcheck
  · exact Column.cover_of_inferAll h

namespace Marshaller

section

variable {name : String}

theorem sourceColumn?_eq_none_iff : sourceColumn? cs name = none ↔ ∀ c ∈ cs, c.name ≠ name := by
  rw [sourceColumn?, List.find?_eq_none]
  simp only [List.mem_reverse, Column.columnTypes, List.mem_mapIdx]
  constructor
  · intro h c hc hname
    obtain ⟨i, hi, rfl⟩ := List.getElem_of_mem hc
    exact h ((cs[i]).columnType (i + 1)) ⟨i, hi, rfl⟩ (beq_iff_eq.2 hname)
  · rintro h _ ⟨i, hi, rfl⟩ hname
    exact h cs[i] (List.getElem_mem hi) (beq_iff_eq.1 hname)

theorem sinkColumn?_eq_none_iff {ordinal : Nat} :
    sinkColumn? cs ordinal name = none ↔ ∀ c ∈ cs, c.name ≠ name := by
  rw [sinkColumn?, Option.map_eq_none_iff, List.find?_eq_none]
  simp only [beq_iff_eq]

theorem exists_sourceColumn? (h : ∃ c ∈ cs, c.name = name) :
    ∃ c, sourceColumn? cs name = some c := by
  obtain ⟨c, hc, hname⟩ := h
  exact Option.ne_none_iff_exists'.1 fun hnone => sourceColumn?_eq_none_iff.1 hnone c hc hname

theorem exists_sinkColumn? (ordinal : Nat) (h : ∃ c ∈ cs, c.name = name) :
    ∃ c, sinkColumn? cs ordinal name = some c := by
  obtain ⟨c, hc, hname⟩ := h
  exact Option.ne_none_iff_exists'.1 fun hnone => sinkColumn?_eq_none_iff.1 hnone c hc hname

end

theorem exists_forSource (vendor : Vendor) (h : Column.Cover cs fields) :
    ∃ m, forSource vendor fields cs = .ok m := by
  refine (exists_mapM_eq_ok fun f hf => ?_).elim fun bindings hb =>
    ⟨⟨vendor, bindings⟩, bind_eq_ok.2 ⟨bindings, hb, rfl⟩⟩
  obtain ⟨c, hc⟩ := exists_sourceColumn? (h f hf)
  exact ⟨⟨f, c⟩, by rw [hc]⟩

theorem exists_sinkBindings (ordinal : Nat) (h : Column.Cover cs fields) :
    ∃ bindings, sinkBindings cs ordinal fields = .ok bindings := by
  induction fields generalizing ordinal with
  | nil => exact ⟨[], rfl⟩
  | cons f fields ih =>
      obtain ⟨hf, hfields⟩ := List.forall_mem_cons.1 h
      obtain ⟨c, hc⟩ := exists_sinkColumn? ordinal hf
      obtain ⟨rest, hrest⟩ := ih (ordinal + 1) hfields
      refine ⟨⟨f, c⟩ :: rest, ?_⟩
      rw [sinkBindings, hc, hrest]
      rfl

theorem exists_forSink (vendor : Vendor) (h : Column.Cover cs fields) :
    ∃ m, forSink vendor fields cs = .ok m := by
  obtain ⟨bindings, hb⟩ := exists_sinkBindings 1 h
  refine ⟨⟨vendor, bindings⟩, ?_⟩
  rw [forSink, hb]
  rfl

end Marshaller

end TableTransfer
