import Mathlib.Data.List.Induction
import Mathlib.Data.List.Nodup

namespace TableTransfer

section

variable {α κ : Type} [BEq κ] [LawfulBEq κ] {key : α → κ} {xs ys : List α}

theorem find?_eq_some_iff_of_nodup (h : (xs.map key).Nodup) {k : κ} {x : α} :
    xs.find? (fun x => key x == k) = some x ↔ x ∈ xs ∧ key x = k := by
  constructor
  · intro hx
    exact ⟨List.mem_of_find?_eq_some hx, by simpa using List.find?_some hx⟩
  · rintro ⟨hmem, rfl⟩
    have hfound : (xs.find? fun y => key y == key x).isSome = true := by
      rw [List.find?_isSome]
      exact ⟨x, hmem, beq_self_eq_true _⟩
    obtain ⟨y, hy⟩ := Option.isSome_iff_exists.1 hfound
    have hkey : key y = key x := by simpa using List.find?_some hy
    rw [hy, List.inj_on_of_nodup_map h (List.mem_of_find?_eq_some hy) hmem hkey]

theorem find?_eq_of_perm (h : xs.Perm ys) (hnodup : (xs.map key).Nodup) (k : κ) :
    xs.find? (fun x => key x == k) = ys.find? (fun x => key x == k) := by
  have hnodup' : (ys.map key).Nodup := (h.map key).nodup_iff.1 hnodup
  apply Option.ext
  intro x
  rw [find?_eq_some_iff_of_nodup hnodup, find?_eq_some_iff_of_nodup hnodup', h.mem_iff]

end

/-- The item is the last one of the list that satisfies the predicate. -/
def Latest {α : Type} (p : α → Prop) (xs : List α) (x : α) : Prop :=
  ∃ before after, xs = before ++ x :: after ∧ p x ∧ ∀ y ∈ after, ¬p y

theorem Latest.mem {α : Type} {p : α → Prop} {xs : List α} {x : α} (h : Latest p xs x) : x ∈ xs := by
  obtain ⟨before, after, rfl, -⟩ := h
  exact List.mem_append_right _ List.mem_cons_self

theorem Latest.holds {α : Type} {p : α → Prop} {xs : List α} {x : α} (h : Latest p xs x) : p x := by
  obtain ⟨-, -, -, hx, -⟩ := h
  exact hx

theorem latest_append_singleton {α : Type} {p : α → Prop} {xs : List α} {x y : α} :
    Latest p (xs ++ [y]) x ↔ (p y ∧ x = y) ∨ (¬p y ∧ Latest p xs x) := by
  constructor
  · rintro ⟨before, after, hsplit, hx, hafter⟩
    rcases List.eq_nil_or_concat after with rfl | ⟨after, z, rfl⟩
    · obtain ⟨-, rfl⟩ := List.append_inj' hsplit rfl |>.imp id List.singleton_inj.1
      exact .inl ⟨hx, rfl⟩
    · have hsplit' : xs ++ [y] = (before ++ x :: after) ++ [z] := by simpa using hsplit
      obtain ⟨rfl, hz⟩ := List.append_inj' hsplit' rfl
      obtain rfl := List.singleton_inj.1 hz
      rw [List.concat_eq_append] at hafter
      refine .inr ⟨hafter y (by simp), before, after, rfl, hx, fun z hz => ?_⟩
      exact hafter z (List.mem_append_left _ hz)
  · rintro (⟨hy, rfl⟩ | ⟨hy, before, after, rfl, hx, hafter⟩)
    · exact ⟨xs, [], rfl, hy, by simp⟩
    · refine ⟨before, after ++ [y], by simp, hx, fun z hz => ?_⟩
      rcases List.mem_append.1 hz with hz | hz
      · exact hafter z hz
      · rwa [List.mem_singleton.1 hz]

theorem exists_latest {α : Type} {p : α → Prop} {xs : List α} (h : ∃ x ∈ xs, p x) :
    ∃ x, Latest p xs x := by
  induction xs using List.reverseRecOn with
  | nil => simp at h
  | append_singleton xs y ih =>
      by_cases hy : p y
      · exact ⟨y, latest_append_singleton.2 (.inl ⟨hy, rfl⟩)⟩
      · obtain ⟨x, hx, hpx⟩ := h
        rcases List.mem_append.1 hx with hx | hx
        · obtain ⟨z, hz⟩ := ih ⟨x, hx, hpx⟩
          exact ⟨z, latest_append_singleton.2 (.inr ⟨hy, hz⟩)⟩
        · exact absurd (List.mem_singleton.1 hx ▸ hpx) hy

theorem Latest.unique {α : Type} {p : α → Prop} {xs : List α} {x y : α} (hx : Latest p xs x)
    (hy : Latest p xs y) : x = y := by
  induction xs using List.reverseRecOn with
  | nil => cases hx.mem
  | append_singleton xs z ih =>
      rcases latest_append_singleton.1 hx with ⟨hz, rfl⟩ | ⟨hz, hx⟩
      · rcases latest_append_singleton.1 hy with ⟨-, rfl⟩ | ⟨hno, -⟩
        · rfl
        · exact absurd hz hno
      · rcases latest_append_singleton.1 hy with ⟨hyes, -⟩ | ⟨-, hy⟩
        · exact absurd hyes hz
        · exact ih hx hy

end TableTransfer
