import TableTransfer.Proofs.Split.Partition

namespace TableTransfer.SplitPlan

/-- The predicates of the queries that are made once the bounds are known, or known to be missing. -/
def issued (p : SplitPlan) : Option (Int64 × Int64) → List SplitPredicate
  | some (low, high) => p.predicates low high
  | none => p.predicatesWithoutBounds

def nullCount (ps : List SplitPredicate) : Nat := ps.countP fun p => p.Holds none

theorem nullCount_append (ps qs : List SplitPredicate) :
    nullCount (ps ++ qs) = nullCount ps + nullCount qs :=
  List.countP_append

theorem nullCount_rangePredicates (rs : List (Int64 × Int64)) :
    nullCount (rangePredicates rs) = 0 := by
  induction rs with
  | nil => rfl
  | cons r rs ih =>
      cases rs with
      | nil => rfl
      | cons s rs =>
          rw [rangePredicates_cons r (List.cons_ne_nil s rs), nullCount, List.countP_cons]
          exact ih

variable {p : SplitPlan}

theorem nullCount_predicates (hcount : p.count ≠ 1) (low high : Int64) :
    nullCount (p.predicates low high) = if p.withNulls then 1 else 0 := by
  rw [predicates, if_neg hcount, nullCount_append, nullCount_rangePredicates, Nat.zero_add]
  cases p.withNulls <;> rfl

theorem nullCount_predicatesWithoutBounds (hcount : p.count ≠ 1) :
    nullCount p.predicatesWithoutBounds = 1 := by
  rw [predicatesWithoutBounds, if_neg hcount]
  rfl

/-- A split import reads each row without a value in the split column once if such rows are asked
for and else never, just if it has bounds or asks for such rows. -/
theorem nullCount_issued_iff {query column : String} {count : Nat} {plan : SplitPlan}
    (hmake : make query column count = .ok plan) (hcount : 2 ≤ count) (withNulls : Bool)
    (bounds : Option (Int64 × Int64)) :
    nullCount ({ plan with withNulls }.issued bounds) = (if withNulls then 1 else 0) ↔
      bounds.isSome ∨ withNulls = true := by
  have hplan : { plan with withNulls }.count ≠ 1 := by
    change plan.count ≠ 1
    rw [count_of_make hmake]
    omega
  cases bounds with
  | some bounds =>
      have hread := nullCount_predicates hplan bounds.1 bounds.2
      exact iff_of_true hread (.inl rfl)
  | none =>
      have hread : nullCount ({ plan with withNulls }.issued none) = 1 :=
        nullCount_predicatesWithoutBounds hplan
      rw [hread]
      cases withNulls <;> simp

theorem nullCount_issued_null_split :
    ∃ plan, make "SELECT * FROM t WHERE $CONDITIONS" "id" 4 = .ok plan ∧
      nullCount ({ plan with withNulls := true }.issued none) = 1 := by
  have hmake : make "SELECT * FROM t WHERE $CONDITIONS" "id" 4 =
      .ok { query := "SELECT * FROM t WHERE $CONDITIONS", column := "id", count := 4 } := rfl
  exact ⟨_, hmake, (nullCount_issued_iff hmake (by decide) true none).2 (.inr rfl)⟩

/-- Rows without a value are not asked for, and are read where there are no others. -/
theorem null_rows_read_unrequested :
    ∃ plan, make "SELECT * FROM t WHERE $CONDITIONS" "id" 2 = .ok plan ∧
      plan.withNulls = false ∧
      plan.queriesWithoutBounds = ["SELECT * FROM t WHERE (id IS NULL)"] ∧
      nullCount (plan.issued none) = 1 :=
  ⟨_, rfl, rfl, rfl, rfl⟩

end TableTransfer.SplitPlan
