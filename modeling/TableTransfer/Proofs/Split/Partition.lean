import TableTransfer.Proofs.Pairing
import TableTransfer.Transfer.Bounds
import TableTransfer.Transfer.Split

namespace TableTransfer.SplitPlan

inductive Consecutive : Int64 → Int64 → List (Int64 × Int64) → Prop
  | last {low high : Int64} : low.toInt ≤ high.toInt → Consecutive low high [(low, high)]
  | step {low mid high : Int64} {rest : List (Int64 × Int64)} : low.toInt ≤ mid.toInt →
      Consecutive mid high rest → Consecutive low high ((low, mid) :: rest)

namespace Consecutive

variable {low high : Int64} {rs : List (Int64 × Int64)}

theorem le (h : Consecutive low high rs) : low.toInt ≤ high.toInt := by
  induction h with
  | last h => exact h
  | step h _ ih => exact Int.le_trans h ih

theorem ne_nil (h : Consecutive low high rs) : rs ≠ [] := by
  cases h <;> simp

end Consecutive

theorem rangePredicates_cons (r : Int64 × Int64) {rs : List (Int64 × Int64)} (h : rs ≠ []) :
    rangePredicates (r :: rs) = .below r.1 r.2 :: rangePredicates rs := by
  cases rs with
  | nil => exact absurd rfl h
  | cons s rs => rfl

def holdCount (ps : List SplitPredicate) (x : Int) : Nat := ps.countP fun p => p.Holds (some x)

theorem holdCount_cons (p : SplitPredicate) (ps : List SplitPredicate) (x : Int) :
    holdCount (p :: ps) x = (if p.Holds (some x) then 1 else 0) + holdCount ps x := by
  simp [holdCount, List.countP_cons, Nat.add_comm]

/-- The ranges without their upper ends and the last one with it cover what lies between the
outer bounds, and they cover it once. -/
theorem Consecutive.holdCount_rangePredicates {low high : Int64} {rs : List (Int64 × Int64)}
    (h : Consecutive low high rs) (x : Int) :
    holdCount (rangePredicates rs) x = if low.toInt ≤ x ∧ x ≤ high.toInt then 1 else 0 := by
  induction h with
  | last h =>
      rw [rangePredicates, holdCount_cons]
      rfl
  | @step low mid high rest hle hrest ih =>
      have hmid := hrest.le
      rw [rangePredicates_cons _ hrest.ne_nil, holdCount_cons, ih]
      simp only [SplitPredicate.Holds]
      by_cases hx : x < mid.toInt
      · have hnot : ¬(mid.toInt ≤ x ∧ x ≤ high.toInt) := by omega
        have hiff : (low.toInt ≤ x ∧ x < mid.toInt) ↔ (low.toInt ≤ x ∧ x ≤ high.toInt) := by omega
        simp only [hnot, hiff, if_false, Nat.add_zero]
      · have hnot : ¬(low.toInt ≤ x ∧ x < mid.toInt) := by omega
        have hiff : (mid.toInt ≤ x ∧ x ≤ high.toInt) ↔ (low.toInt ≤ x ∧ x ≤ high.toInt) := by omega
        simp only [hnot, hiff, if_false, Nat.zero_add]

variable {p : SplitPlan} {low high : Int64}

theorem mul_size_le (hle : low.toInt ≤ high.toInt) {i : Nat} (hi : i ≤ p.count) :
    0 ≤ p.size low high ∧ i * p.size low high ≤ high.toInt - low.toInt := by
  have hsize : 0 ≤ p.size low high := Int.ediv_nonneg (by omega) (by omega)
  have hall : p.count * p.size low high ≤ high.toInt - low.toInt := by
    by_cases hc : p.count = 0
    · simp only [hc, Int.natCast_zero, Int.zero_mul]; omega
    · rw [Int.mul_comm]
      exact Int.ediv_mul_le _ (by omega)
  have hpart : i * p.size low high ≤ p.count * p.size low high :=
    Int.mul_le_mul_of_nonneg_right (by omega) hsize
  exact ⟨hsize, by omega⟩

/-- Every place where a range begins is a word, so the upper end never stands in for it. -/
theorem toInt_bound (hle : low.toInt ≤ high.toInt) {i : Nat} (hi : i ≤ p.count) :
    (p.bound low high i).toInt = low.toInt + i * p.size low high := by
  obtain ⟨hsize, hmul⟩ := mul_size_le hle hi
  have hpos : 0 ≤ i * p.size low high := Int.mul_nonneg (by omega) hsize
  have hlow := low.le_toInt
  have hhigh := high.toInt_lt
  have hfits : (Int64.ofInt (low.toInt + i * p.size low high)).toInt =
      low.toInt + i * p.size low high := Int64.toInt_ofInt_of_le (by omega) (by omega)
  rw [bound, int64?_eq_some_iff.2 hfits]
  exact hfits

theorem bound_zero (hle : low.toInt ≤ high.toInt) : p.bound low high 0 = low := by
  apply Int64.toInt_inj.1
  rw [toInt_bound hle (Nat.zero_le _)]
  simp

theorem bound_le_succ (hle : low.toInt ≤ high.toInt) {i : Nat} (hi : i < p.count) :
    (p.bound low high i).toInt ≤ (p.bound low high (i + 1)).toInt := by
  have hsize := (mul_size_le (p := p) hle (Nat.le_of_lt hi)).1
  rw [toInt_bound hle (Nat.le_of_lt hi), toInt_bound (i := i + 1) hle hi]
  rw [Int.natCast_add, Int.add_mul]
  simp only [Int.natCast_one, Int.one_mul]
  omega

theorem bound_le_high (hle : low.toInt ≤ high.toInt) {i : Nat} (hi : i ≤ p.count) :
    (p.bound low high i).toInt ≤ high.toInt := by
  have hmul := (mul_size_le hle hi).2
  rw [toInt_bound hle hi]
  omega

theorem consecutive_map_range' (hle : low.toInt ≤ high.toInt) {i n : Nat}
    (hn : i + n + 1 = p.count) :
    Consecutive (p.bound low high i) high
      ((List.range' i (n + 1)).map fun i =>
        (p.bound low high i, if i + 1 = p.count then high else p.bound low high (i + 1))) := by
  induction n generalizing i with
  | zero =>
      simp only [List.range'_succ, List.range'_zero, List.map_cons, List.map_nil]
      rw [if_pos (by omega)]
      exact .last (bound_le_high hle (by omega))
  | succ n ih =>
      rw [List.range'_succ, List.map_cons, if_neg (by omega)]
      exact .step (bound_le_succ hle (by omega)) (ih (by omega))

theorem consecutive_ranges (hle : low.toInt ≤ high.toInt) :
    Consecutive low high (p.ranges low high) := by
  simp only [ranges]
  split
  · exact .last hle
  · rename_i h
    obtain ⟨n, hn⟩ : ∃ n, p.count = n + 1 := ⟨p.count - 1, by omega⟩
    have hall := consecutive_map_range' (p := p) hle (i := 0) (n := n) (by omega)
    rwa [bound_zero hle, ← hn, ← List.range_eq_range'] at hall

theorem holdCount_predicates (hcount : p.count ≠ 1) (hle : low.toInt ≤ high.toInt) (x : Int) :
    holdCount (p.predicates low high) x =
      if low.toInt ≤ x ∧ x ≤ high.toInt then 1 else 0 := by
  have hnull : holdCount (if p.withNulls then [.null] else []) x = 0 := by
    cases p.withNulls <;> rfl
  rw [predicates, if_neg hcount, holdCount, List.countP_append]
  change holdCount _ x + holdCount _ x = _
  rw [hnull, (consecutive_ranges hle).holdCount_rangePredicates]
  rfl

theorem count_of_make {query column : String} {count : Nat} {plan : SplitPlan}
    (h : make query column count = .ok plan) : plan.count = count := by
  simp only [make] at h
  split at h
  · cases h
  · split at h
    · cases h
    · split at h
      · cases h
      · cases h; rfl

/-- A query that is split in two or more reads each number between the bounds in exactly one of
the splits, and a number beyond them in none. -/
theorem predicates_partition_bounds {query column : String} {count : Nat} {plan : SplitPlan}
    (hmake : make query column count = .ok plan) (hcount : 2 ≤ count) (withNulls : Bool)
    {low high : Int64} (hle : low ≤ high) (x : Int) :
    (low.toInt ≤ x ∧ x ≤ high.toInt →
      holdCount ({ plan with withNulls }.predicates low high) x = 1) ∧
    (¬(low.toInt ≤ x ∧ x ≤ high.toInt) →
      ∀ p ∈ { plan with withNulls }.predicates low high, ¬p.Holds (some x)) := by
  have hplan : { plan with withNulls }.count ≠ 1 := by
    change plan.count ≠ 1
    rw [count_of_make hmake]
    omega
  have hcover := holdCount_predicates (p := { plan with withNulls }) hplan
    (Int64.le_iff_toInt_le.1 hle) x
  constructor
  · intro hx
    rw [hcover, if_pos hx]
  · intro hx p hp hholds
    rw [if_neg hx, holdCount, List.countP_eq_zero] at hcover
    exact hcover p hp (decide_eq_true hholds)

theorem predicates_partition_all_words :
    ∃ plan, make "SELECT * FROM t WHERE $CONDITIONS" "id" 7 = .ok plan ∧
      Int64.minValue ≤ Int64.maxValue ∧
      holdCount ({ plan with withNulls := true }.predicates Int64.minValue Int64.maxValue)
        (-6588122883467697006) = 1 := by
  have hmake : make "SELECT * FROM t WHERE $CONDITIONS" "id" 7 =
      .ok { query := "SELECT * FROM t WHERE $CONDITIONS", column := "id", count := 7 } := by
    rfl
  have hle : Int64.minValue ≤ Int64.maxValue := by decide
  exact ⟨_, hmake, hle,
    (predicates_partition_bounds hmake (by decide) true hle _).1 ⟨by decide, by decide⟩⟩

/-- Bounds that a query answers are never crossed. -/
theorem le_of_splitBounds {c : Connection} {sql : String} {least greatest : Int64}
    (h : splitBounds c sql = .ok (some (least, greatest))) : least ≤ greatest := by
  unfold splitBounds at h
  obtain ⟨cur, -, h⟩ := bind_eq_ok.1 h
  dsimp only at h
  split at h
  · cases h
  · obtain ⟨first, -, h⟩ := bind_eq_ok.1 h
    obtain ⟨second, -, h⟩ := bind_eq_ok.1 h
    cases first with
    | none => cases second <;> cases h
    | some low =>
        cases second with
        | none => cases h
        | some high =>
            dsimp only at h
            split at h
            · rename_i hle
              cases h
              exact Int64.le_iff_toInt_le.2 hle
            · cases h

end TableTransfer.SplitPlan
