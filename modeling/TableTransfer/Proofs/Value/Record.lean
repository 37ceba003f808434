import Mathlib.Data.List.Induction
import Mathlib.Data.List.Nodup
import TableTransfer.Value.Basic

namespace TableTransfer.Record

variable {name : String} {v : Value} {entries : List (String × Value)}

theorem setEntries_of_not_mem (h : name ∉ entries.map Prod.fst) :
    setEntries name v entries = entries ++ [(name, v)] := by
  induction entries with
  | nil => rfl
  | cons e rest ih =>
      rw [List.map_cons, List.mem_cons, not_or] at h
      rw [setEntries, if_neg (Ne.symm h.1), ih h.2]
      rfl

theorem map_fst_setEntries (name : String) (v : Value) (entries : List (String × Value)) :
    (setEntries name v entries).map Prod.fst =
      if name ∈ entries.map Prod.fst then entries.map Prod.fst
      else entries.map Prod.fst ++ [name] := by
  induction entries with
  | nil => rfl
  | cons e rest ih =>
      by_cases h : e.1 = name
      · simp [setEntries, h]
      · rw [setEntries, if_neg h, List.map_cons, ih]
        by_cases hrest : name ∈ rest.map Prod.fst <;> simp [hrest, Ne.symm h]

theorem nodup_names_set {r : Record} (h : r.names.Nodup) : (r.set name v).names.Nodup := by
  change ((setEntries name v r.entries).map Prod.fst).Nodup
  rw [map_fst_setEntries]
  split
  · exact h
  · rename_i hfresh
    exact List.nodup_append_comm.1 (List.nodup_cons.2 ⟨hfresh, h⟩)

theorem ofList_append_singleton (pairs : List (String × Value)) (p : String × Value) :
    ofList (pairs ++ [p]) = (ofList pairs).set p.1 p.2 :=
  List.foldl_append

theorem nodup_names_ofList (pairs : List (String × Value)) : (ofList pairs).names.Nodup := by
  induction pairs using List.reverseRecOn with
  | nil => exact List.nodup_nil
  | append_singleton pairs p ih =>
      rw [ofList_append_singleton]
      exact nodup_names_set ih

theorem entries_ofList {pairs : List (String × Value)} (h : (pairs.map Prod.fst).Nodup) :
    (ofList pairs).entries = pairs := by
  induction pairs using List.reverseRecOn with
  | nil => rfl
  | append_singleton pairs p ih =>
      rw [List.map_append, List.map_singleton] at h
      have hentries := ih h.of_append_left
      have hfresh : p.1 ∉ pairs.map Prod.fst := (List.nodup_cons.1 (List.nodup_append_comm.1 h)).1
      rw [ofList_append_singleton]
      change setEntries p.1 p.2 (ofList pairs).entries = _
      rw [hentries, setEntries_of_not_mem hfresh]

end TableTransfer.Record
