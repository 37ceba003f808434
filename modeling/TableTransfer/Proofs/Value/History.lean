import Mathlib.Data.List.Dedup
import TableTransfer.Proofs.Keyed
import TableTransfer.Proofs.Value.Record

namespace TableTransfer.Record

variable {r : Record} {name : String} {v : Value} {entries : List (String × Value)}
  {sets : List (String × Value)}

theorem find?_setEntries (other : String) :
    (setEntries name v entries).find? (fun e => e.1 == other) =
      if name = other then some (name, v) else entries.find? fun e => e.1 == other := by
  induction entries with
  | nil => by_cases h : name = other <;> simp [setEntries, h]
  | cons e rest ih =>
      by_cases he : e.1 = name
      · rw [setEntries, if_pos he]
        by_cases h : name = other <;> simp [he, h]
      · rw [setEntries, if_neg he, List.find?_cons, ih, List.find?_cons]
        by_cases h : name = other
        · have hother : (e.1 == other) = false := beq_false_of_ne (h ▸ he)
          simp only [hother, h, if_true]
        · simp only [h, if_false]

theorem get?_set (r : Record) (name other : String) (v : Value) :
    (r.set name v).get? other = if name = other then some v else r.get? other := by
  change ((setEntries name v r.entries).find? fun e => e.1 == other).map Prod.snd = _
  rw [find?_setEntries]
  split <;> rfl

theorem setEntries_of_getElem? (h : (entries.map Prod.fst).Nodup) {i : Nat} {old : Value}
    (hi : entries[i]? = some (name, old)) :
    setEntries name v entries = entries.set i (name, v) := by
  induction entries generalizing i with
  | nil => cases hi
  | cons e rest ih =>
      obtain ⟨hfresh, hrest⟩ := List.nodup_cons.1 h
      cases i with
      | zero =>
          obtain rfl : e = (name, old) := Option.some.inj hi
          rw [setEntries, if_pos rfl, List.set_cons_zero]
      | succ i =>
          have hmem : name ∈ rest.map Prod.fst :=
            List.mem_map.2 ⟨_, List.mem_of_getElem? hi, rfl⟩
          have hne : e.1 ≠ name := fun heq => hfresh (heq ▸ hmem)
          rw [setEntries, if_neg hne, ih hrest hi, List.set_cons_succ]

/-- The names are those that were set, in the order in which they were first set, each with the
value that it was last set to. -/
structure Reflects (r : Record) (sets : List (String × Value)) : Prop where
  nodup : r.names.Nodup
  mem_names_iff {name : String} : name ∈ r.names ↔ name ∈ sets.map Prod.fst
  ordered : r.names.Pairwise fun a b =>
    (sets.map Prod.fst).idxOf a < (sets.map Prod.fst).idxOf b
  get?_eq_some_iff {name : String} {v : Value} :
    r.get? name = some v ↔ Latest (fun p => p.1 = name) sets (name, v)

theorem reflects_empty : empty.Reflects [] where
  nodup := List.nodup_nil
  mem_names_iff := Iff.rfl
  ordered := .nil
  get?_eq_some_iff := iff_of_false (fun h => by cases h) fun h => by cases h.mem

theorem names_set (r : Record) (name : String) (v : Value) :
    (r.set name v).names = if name ∈ r.names then r.names else r.names ++ [name] :=
  map_fst_setEntries name v r.entries

theorem pairwise_idxOf_append {names order : List String} (hsub : ∀ n ∈ names, n ∈ order)
    (h : names.Pairwise fun a b => order.idxOf a < order.idxOf b) (later : List String) :
    names.Pairwise fun a b => (order ++ later).idxOf a < (order ++ later).idxOf b := by
  refine h.imp_of_mem fun ha hb hlt => ?_
  rw [List.idxOf_append_of_mem (hsub _ ha), List.idxOf_append_of_mem (hsub _ hb)]
  exact hlt

theorem Reflects.set (h : r.Reflects sets) (name : String) (v : Value) :
    (r.set name v).Reflects (sets ++ [(name, v)]) where
  nodup := nodup_names_set h.nodup
  mem_names_iff {other} := by
    rw [names_set, List.map_append, List.mem_append, List.map_singleton, List.mem_singleton,
      ← h.mem_names_iff]
    split
    · rename_i hmem
      exact (or_iff_left_of_imp fun heq => heq ▸ hmem).symm
    · rw [List.mem_append, List.mem_singleton]
  ordered := by
    have hkept := pairwise_idxOf_append (fun _ => h.mem_names_iff.1) h.ordered [name]
    rw [names_set, List.map_append, List.map_singleton]
    split
    · exact hkept
    · rename_i hfresh
      refine List.pairwise_append.2 ⟨hkept, List.pairwise_singleton _ _, fun a ha b hb => ?_⟩
      obtain rfl := List.mem_singleton.1 hb
      have hset := h.mem_names_iff.1 ha
      rw [List.idxOf_append_of_mem hset,
        List.idxOf_append_of_notMem fun hmem => hfresh (h.mem_names_iff.2 hmem)]
      exact Nat.lt_of_lt_of_le (List.idxOf_lt_length_of_mem hset) (Nat.le_add_right _ _)
  get?_eq_some_iff {other w} := by
    rw [get?_set, latest_append_singleton, ← h.get?_eq_some_iff]
    by_cases heq : name = other
    · simp [heq, eq_comm]
    · simp [heq]

theorem reflects_ofList (sets : List (String × Value)) : (ofList sets).Reflects sets := by
  induction sets using List.reverseRecOn with
  | nil => exact reflects_empty
  | append_singleton sets p ih =>
      rw [ofList_append_singleton]
      exact ih.set p.1 p.2

namespace Reflects

theorem get?_eq_none_iff (h : r.Reflects sets) : r.get? name = none ↔ name ∉ sets.map Prod.fst := by
  rw [← h.mem_names_iff, ← Option.not_isSome_iff_eq_none, ← contains_eq_isSome_get?]
  simp [contains, names]

theorem size_eq (h : r.Reflects sets) : r.size = (sets.map Prod.fst).dedup.length := by
  have hperm : r.names.Perm (sets.map Prod.fst).dedup :=
    (List.perm_ext_iff_of_nodup h.nodup (List.nodup_dedup _)).2 fun _ =>
      h.mem_names_iff.trans List.mem_dedup.symm
  rw [← hperm.length_eq, names, List.length_map, size]

theorem latest_of_mem (h : r.Reflects sets) {e : String × Value} (he : e ∈ r.entries) :
    Latest (fun p => p.1 = e.1) sets e := by
  have hfound : r.entries.find? (fun p => p.1 == e.1) = some e :=
    (find?_eq_some_iff_of_nodup h.nodup).2 ⟨he, rfl⟩
  exact h.get?_eq_some_iff.1 (by rw [get?, hfound, Option.map_some])

theorem exists_entries_set (h : r.Reflects sets) (hname : name ∈ r.names) (v : Value) :
    ∃ i old, r.entries[i]? = some (name, old) ∧
      (r.set name v).entries = r.entries.set i (name, v) := by
  obtain ⟨⟨_, old⟩, he, rfl⟩ := List.mem_map.1 hname
  obtain ⟨i, hi⟩ := List.mem_iff_getElem?.1 he
  exact ⟨i, old, hi, setEntries_of_getElem? h.nodup hi⟩

end Reflects

/-- Whatever is set in an empty record, each name has one entry, with the value that it was last set
to, and the entries stand in the order in which their names were first set. To set a name that is
there already changes the value of its entry and nothing else. -/
theorem ofList_insertion_ordered (sets : List (String × Value)) :
    (ofList sets).Reflects sets ∧
      (∀ name, (ofList sets).get? name = none ↔ name ∉ sets.map Prod.fst) ∧
      (∀ name, (ofList sets).contains name = ((ofList sets).get? name).isSome) ∧
      (ofList sets).size = (sets.map Prod.fst).dedup.length ∧
      (∀ e ∈ (ofList sets).entries, Latest (fun p => p.1 = e.1) sets e) ∧
      ∀ name v, name ∈ (ofList sets).names → ∃ i old,
        (ofList sets).entries[i]? = some (name, old) ∧
          ((ofList sets).set name v).entries = (ofList sets).entries.set i (name, v) := by
  have h := reflects_ofList sets
  exact ⟨h, fun _ => h.get?_eq_none_iff, contains_eq_isSome_get? _, h.size_eq,
    fun _ => h.latest_of_mem, fun _ v hname => h.exists_entries_set hname v⟩

def corrected : List (String × Value) :=
  [("ID", .int 1), ("NAME", .string "alice"), ("ID", .int 2)]

theorem ofList_insertion_ordered_corrected :
    (ofList corrected).entries = [("ID", .int 2), ("NAME", .string "alice")] ∧
      (ofList corrected).size = 2 ∧ "NAME" ∈ (ofList corrected).names ∧
      ∃ i old, (ofList corrected).entries[i]? = some ("NAME", old) ∧
        ((ofList corrected).set "NAME" .null).entries =
          (ofList corrected).entries.set i ("NAME", .null) := by
  obtain ⟨-, -, -, hsize, -, hset⟩ := ofList_insertion_ordered corrected
  have hname : "NAME" ∈ (ofList corrected).names := .tail _ (.head _)
  exact ⟨rfl, hsize, hname, hset "NAME" .null hname⟩

end TableTransfer.Record
