import TableTransfer.Proofs.Text.Cut
import TableTransfer.Proofs.Text.Digits
import TableTransfer.Transfer.Bounds

namespace TableTransfer

open Text

theorem conditionsWord_ne_nil : conditionsWord ≠ [] := by decide

namespace SplitPredicate

/-- A text in brackets without the word for conditions between them. -/
def Bracketed (text : List Char) : Prop :=
  ∃ body, text = '(' :: (body ++ [')']) ∧ ¬conditionsWord <:+: body

theorem Bracketed.not_infix_intercalate {text : List Char} {pieces : List (List Char)}
    (h : Bracketed text) (hpieces : ∀ piece ∈ pieces, ¬conditionsWord <:+: piece) :
    ¬conditionsWord <:+: text.intercalate pieces := by
  obtain ⟨body, rfl, hbody⟩ := h
  exact Text.not_infix_intercalate conditionsWord_ne_nil (by decide) (by decide) hbody hpieces

theorem dollar_notMem_intText (n : Int) : '$' ∉ (intText n).toList := by
  have hdigits : '$' ∉ digits n.natAbs := by
    intro h
    have hdigit := isDigit_of_mem_digits h
    revert hdigit
    decide
  rw [intText, String.toList_ofList]
  split
  · simpa using hdigits
  · exact hdigits

theorem not_infix_of_dollar_notMem {cs : List Char} (h : '$' ∉ cs) : ¬conditionsWord <:+: cs :=
  not_infix_of_not_mem (by decide) h

variable {column : String}

theorem bracketed_within (hcolumn : ¬conditionsWord <:+: column.toList) {op : String}
    (hop : '$' ∉ op.toList) (low high : Int64) :
    Bracketed (text.within column op low high).toList := by
  refine ⟨column.toList ++ ' ' :: ((">= " ++ intText low.toInt ++ " AND").toList ++
    ' ' :: (column.toList ++ ' ' :: (op ++ " " ++ intText high.toInt).toList)), ?_, ?_⟩
  · simp [text.within]
  · have hblank : ' ' ∉ conditionsWord := by decide
    have hlow : ¬conditionsWord <:+: (">= " ++ intText low.toInt ++ " AND").toList :=
      not_infix_of_dollar_notMem (by simp [dollar_notMem_intText])
    have hhigh : ¬conditionsWord <:+: (op ++ " " ++ intText high.toInt).toList :=
      not_infix_of_dollar_notMem (by simp [dollar_notMem_intText, hop])
    simp only [infix_append_cons_iff hblank, hcolumn, hlow, hhigh, or_self, not_false_eq_true]

theorem bracketed_text (hcolumn : ¬conditionsWord <:+: column.toList) (p : SplitPredicate) :
    Bracketed (p.text column).toList := by
  cases p with
  | everything => exact ⟨"1 = 1".toList, by simp [text], by decide⟩
  | below low high => exact bracketed_within hcolumn (by decide) low high
  | upTo low high => exact bracketed_within hcolumn (by decide) low high
  | null =>
      refine ⟨column.toList ++ ' ' :: "IS NULL".toList, by simp [text], ?_⟩
      rw [infix_append_cons_iff (by decide)]
      rintro (h | h)
      · exact hcolumn h
      · exact not_infix_of_dollar_notMem (by decide) h

end SplitPredicate

namespace SplitPlan

/-- The queries are the pieces of the plan's query, joined by one predicate after the other, and the
word for conditions is in none of them. -/
structure Substituted (p : SplitPlan) (pieces : List (List Char))
    (predicates : List SplitPredicate) (queries : List String) : Prop where
  queries_eq : queries.map String.toList =
    predicates.map fun predicate => (predicate.text p.column).toList.intercalate pieces
  complete : ∀ query ∈ queries, ¬conditionsWord <:+: query.toList

variable {p : SplitPlan}

theorem toList_queryFor (p : SplitPlan) (predicate : SplitPredicate) :
    (p.queryFor predicate).toList =
      (predicate.text p.column).toList.intercalate (pieces conditionsWord p.query.toList) := by
  rw [queryFor, String.toList_ofList, replace]

theorem not_infix_queryFor (hcolumn : ¬conditionsWord <:+: p.column.toList)
    (predicate : SplitPredicate) : ¬conditionsWord <:+: (p.queryFor predicate).toList := by
  have hcut := cut_pieces conditionsWord_ne_nil p.query.toList
  rw [toList_queryFor]
  exact (predicate.bracketed_text hcolumn).not_infix_intercalate
    (hcut.not_infix conditionsWord_ne_nil)

theorem substituted_map (hcolumn : ¬conditionsWord <:+: p.column.toList)
    (predicates : List SplitPredicate) :
    p.Substituted (pieces conditionsWord p.query.toList) predicates
      (predicates.map p.queryFor) where
  queries_eq := by
    rw [List.map_map]
    exact List.map_congr_left fun predicate _ => p.toList_queryFor predicate
  complete := List.forall_mem_map.2 fun predicate _ => not_infix_queryFor hcolumn predicate

/-- The word for conditions is replaced wherever it stands, and no other letter of the query is
changed. -/
theorem queries_substituted (p : SplitPlan) (low high : Int64)
    (hcolumn : ¬conditionsWord <:+: p.column.toList) :
    ∃ pieces, (∀ ps, Cut conditionsWord p.query.toList ps ↔ ps = pieces) ∧
      conditionsWord.intercalate pieces = p.query.toList ∧
      p.Substituted pieces (p.predicates low high) (p.queries low high) ∧
      p.Substituted pieces p.predicatesWithoutBounds p.queriesWithoutBounds := by
  have hcut := cut_pieces conditionsWord_ne_nil p.query.toList
  refine ⟨pieces conditionsWord p.query.toList, ?_, hcut.intercalate, substituted_map hcolumn _,
    substituted_map hcolumn _⟩
  intro ps
  constructor
  · intro hps
    exact hps.unique hcut
  · rintro rfl
    exact hcut

theorem queries_substituted_residues :
    ∃ p : SplitPlan, ¬conditionsWord <:+: p.column.toList ∧
      p.queries 0 9 =
        ["$CON(id >= 0 AND id < 4)DITIONS$", "$CON(id >= 4 AND id <= 9)DITIONS$"] ∧
      ∀ query ∈ p.queries 0 9, ¬conditionsWord <:+: query.toList := by
  have hcolumn : ¬conditionsWord <:+: "id".toList := by decide
  let p : SplitPlan := { query := "$CON$CONDITIONSDITIONS$", column := "id", count := 2 }
  obtain ⟨_, _, _, hqueries, _⟩ := queries_substituted p 0 9 hcolumn
  exact ⟨p, hcolumn, by decide, hqueries.complete⟩

end SplitPlan

end TableTransfer
