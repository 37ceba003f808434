import Mathlib.Data.List.Infix
import TableTransfer.Text.Basic

namespace TableTransfer.Text

section Infix

variable {α : Type*} {word : List α} {x : α}

theorem prefix_append_cons_iff (hx : x ∉ word) (as bs : List α) :
    word <+: as ++ x :: bs ↔ word <+: as := by
  induction as generalizing word with
  | nil =>
      cases word with
      | nil => simp
      | cons w word =>
          have hne : w ≠ x := fun h => hx (h ▸ List.mem_cons_self)
          simp [List.cons_prefix_cons, hne]
  | cons a as ih =>
      cases word with
      | nil => simp
      | cons w word =>
          have hrest : x ∉ word := fun h => hx (List.mem_cons_of_mem w h)
          rw [List.cons_append, List.cons_prefix_cons, List.cons_prefix_cons, ih hrest]

/-- No place of a word is on both sides of what is no letter of it. -/
theorem infix_append_cons_iff (hx : x ∉ word) (as bs : List α) :
    word <:+: as ++ x :: bs ↔ word <:+: as ∨ word <:+: bs := by
  induction as with
  | nil =>
      have hfirst : word <+: x :: bs ↔ word <+: [] := prefix_append_cons_iff hx [] bs
      rw [List.nil_append, List.infix_cons_iff, hfirst, List.prefix_nil, List.infix_nil]
  | cons a as ih =>
      have hfirst : word <+: a :: (as ++ x :: bs) ↔ word <+: a :: as :=
        prefix_append_cons_iff hx (a :: as) bs
      rw [List.cons_append, List.infix_cons_iff, List.infix_cons_iff, hfirst, ih, or_assoc]

theorem not_infix_of_not_mem {cs : List α} (hmem : x ∈ word) (hx : x ∉ cs) : ¬word <:+: cs :=
  fun h => hx (h.subset hmem)

/-- Texts that do not hold the word are joined to one that does not, where no place of the word can
reach over an end of what is put between them. -/
theorem not_infix_intercalate {first last : α} {body : List α} {pieces : List (List α)}
    (hword : word ≠ []) (hfirst : first ∉ word) (hlast : last ∉ word) (hbody : ¬word <:+: body)
    (hpieces : ∀ piece ∈ pieces, ¬word <:+: piece) :
    ¬word <:+: (first :: (body ++ [last])).intercalate pieces := by
  induction pieces with
  | nil => rwa [List.intercalate_nil, List.infix_nil]
  | cons piece pieces ih =>
      obtain ⟨hpiece, hrest⟩ := List.forall_mem_cons.1 hpieces
      cases pieces with
      | nil => rwa [List.intercalate_singleton]
      | cons next pieces =>
          rw [List.intercalate_cons_cons, List.append_assoc, List.cons_append, List.append_assoc,
            List.singleton_append, infix_append_cons_iff hfirst, infix_append_cons_iff hlast]
          rintro (h | h | h)
          · exact hpiece h
          · exact hbody h
          · exact ih hrest h

end Infix

/-- The word stands in the text between `before` and `after`, and nowhere further to the left. -/
structure First (word cs before after : List Char) : Prop where
  split : cs = before ++ word ++ after
  least : ∀ xs ys, cs = xs ++ word ++ ys → before.length ≤ xs.length

inductive Cut (word : List Char) : List Char → List (List Char) → Prop
  | last {cs : List Char} : ¬word <:+: cs → Cut word cs [cs]
  | next {cs piece rest : List Char} {pieces : List (List Char)} : First word cs piece rest →
      Cut word rest pieces → Cut word cs (piece :: pieces)

variable {word cs : List Char}

theorem First.infix {before after : List Char} (h : First word cs before after) : word <:+: cs :=
  ⟨before, after, h.split.symm⟩

theorem First.unique {before before' after after' : List Char} (h : First word cs before after)
    (h' : First word cs before' after') : before = before' ∧ after = after' := by
  have hlength : before.length = before'.length :=
    Nat.le_antisymm (h.least _ _ h'.split) (h'.least _ _ h.split)
  have hsplit := h.split.symm.trans h'.split
  rw [List.append_assoc, List.append_assoc] at hsplit
  obtain ⟨hbefore, hrest⟩ := List.append_inj hsplit hlength
  exact ⟨hbefore, List.append_cancel_left hrest⟩

theorem First.not_infix {before after : List Char} (hword : word ≠ [])
    (h : First word cs before after) : ¬word <:+: before := by
  rintro ⟨xs, ys, rfl⟩
  have hle := h.least xs (ys ++ word ++ after) (by simp [h.split])
  have hpos := List.length_pos_of_ne_nil hword
  simp only [List.length_append] at hle
  omega

theorem First.cons {before after : List Char} {c : Char} (hc : ¬word <+: c :: cs)
    (h : First word cs before after) : First word (c :: cs) (c :: before) after where
  split := by simp [h.split]
  least xs ys hxs := by
    cases xs with
    | nil => exact absurd ⟨ys, hxs.symm⟩ hc
    | cons x xs =>
        have hrest : cs = xs ++ word ++ ys := by simpa using (List.cons.inj hxs).2
        exact Nat.succ_le_succ (h.least xs ys hrest)

namespace Cut

variable {ps : List (List Char)}

theorem unique {qs : List (List Char)} (hps : Cut word cs ps) (hqs : Cut word cs qs) :
    ps = qs := by
  induction hps generalizing qs with
  | last hnot =>
      cases hqs with
      | last => rfl
      | next hfirst _ => exact absurd hfirst.infix hnot
  | next hfirst _ ih =>
      cases hqs with
      | last hnot => exact absurd hfirst.infix hnot
      | next hfirst' hcut =>
          obtain ⟨rfl, rfl⟩ := hfirst.unique hfirst'
          rw [ih hcut]

theorem ne_nil (h : Cut word cs ps) : ps ≠ [] := by
  cases h <;> exact List.cons_ne_nil _ _

theorem intercalate (h : Cut word cs ps) : word.intercalate ps = cs := by
  induction h with
  | last => exact List.intercalate_singleton
  | next hfirst hcut ih => rw [List.intercalate_cons_of_ne_nil hcut.ne_nil, ih, hfirst.split]

theorem not_infix (hword : word ≠ []) (h : Cut word cs ps) : ∀ piece ∈ ps, ¬word <:+: piece := by
  induction h with
  | last hnot => exact List.forall_mem_singleton.2 hnot
  | next hfirst _ ih => exact List.forall_mem_cons.2 ⟨hfirst.not_infix hword, ih⟩

theorem cons {c : Char} (hc : ¬word <+: c :: cs) (h : Cut word cs ps) :
    Cut word (c :: cs) (consPiece c ps) := by
  cases h with
  | last hnot => exact .last fun h => (List.infix_cons_iff.1 h).elim hc hnot
  | next hfirst hcut => exact .next (hfirst.cons hc) hcut

theorem nil_cons (h : Cut word cs ps) : Cut word (word ++ cs) ([] :: ps) :=
  .next ⟨rfl, fun _ _ _ => Nat.zero_le _⟩ h

end Cut

theorem isSome_dropStart?_iff : (dropStart? word cs).isSome ↔ word <+: cs := by
  rw [Option.isSome_iff_exists]
  exact exists_congr fun rest => dropStart?_eq_some_iff.trans eq_comm

theorem cut_piecesFrom (hword : word ≠ []) (skip : Nat) (cs : List Char) :
    Cut word (cs.drop skip) (piecesFrom word skip cs) := by
  induction cs generalizing skip with
  | nil =>
      rw [List.drop_nil, piecesFrom]
      exact .last fun h => hword (List.infix_nil.1 h)
  | cons c cs ih =>
      cases skip with
      | succ skip => exact ih skip
      | zero =>
          rw [List.drop_zero, piecesFrom]
          split
          · next hstart =>
              obtain ⟨rest, hrest⟩ := isSome_dropStart?_iff.1 hstart
              obtain ⟨w, word, rfl⟩ := List.exists_cons_of_ne_nil hword
              have hcs : word ++ rest = cs := (List.cons.inj hrest).2
              have hcut := ih word.length
              rw [← hcs, List.drop_left] at hcut
              rw [← hrest, ← hcs]
              exact hcut.nil_cons
          · next hstart => exact (ih 0).cons fun h => hstart (isSome_dropStart?_iff.2 h)

theorem cut_pieces (hword : word ≠ []) (cs : List Char) : Cut word cs (pieces word cs) :=
  cut_piecesFrom hword 0 cs

end TableTransfer.Text
