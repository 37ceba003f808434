import TableTransfer.Proofs.Split.Partition

namespace TableTransfer.SplitPlan

inductive Overflow where
  | wide (n : Int)
  | narrow (n : Int)

def wide (n : Int) : Except Overflow Int :=
  if -0x80000000000000000000000000000000 ≤ n ∧ n < 0x80000000000000000000000000000000 then .ok n
  else .error (.wide n)

def narrow (n : Int) : Except Overflow Int64 :=
  match int64? n with
  | some w => .ok w
  | none => .error (.narrow n)

def checkedSize (p : SplitPlan) (low high : Int64) : Except Overflow Int := do
  let width ← wide (high.toInt - low.toInt)
  let count ← wide p.count
  wide (width.tdiv count)

def checkedBound (low : Int64) (size : Int) (index : Nat) : Except Overflow Int64 := do
  let index ← wide index
  let offset ← wide (index * size)
  let place ← wide (low.toInt + offset)
  narrow place

def checkedRange (p : SplitPlan) (low high : Int64) (size : Int) (index : Nat) :
    Except Overflow (Int64 × Int64) := do
  let start ← checkedBound low size index
  if index + 1 = p.count then return (start, high)
  let stop ← checkedBound low size (index + 1)
  return (start, stop)

/-- The ranges, where each step of the arithmetic has to be a word of 128 bits and each bound one of
64 bits. A step that is not is a fault, and no other number takes its place. -/
def checkedRanges (p : SplitPlan) (low high : Int64) : Except Overflow (List (Int64 × Int64)) := do
  if p.count ≤ 1 ∨ high ≤ low then return [(low, high)]
  let size ← p.checkedSize low high
  if size < 1 then return [(low, high)]
  (List.range p.count).mapM (p.checkedRange low high size)

theorem wide_eq_ok {n : Int} (h0 : 0 ≤ n) (h : n < 0x10000000000000000) : wide n = .ok n :=
  if_pos (by omega)

theorem narrow_toInt (w : Int64) : narrow w.toInt = .ok w := by
  rw [narrow, int64?_eq_some_iff.2 rfl]

variable {p : SplitPlan} {low high : Int64}

theorem checkedSize_eq (hword : p.count < 0x10000000000000000) (hle : low.toInt ≤ high.toInt) :
    p.checkedSize low high = .ok (p.size low high) := by
  have hlow := low.le_toInt
  have hhigh := high.toInt_lt
  have hsize : 0 ≤ p.size low high := (mul_size_le hle (Nat.zero_le _)).1
  have hwidth : p.size low high ≤ high.toInt - low.toInt := Int.ediv_le_self _ (by omega)
  have htdiv : (high.toInt - low.toInt).tdiv p.count = p.size low high :=
    Int.tdiv_eq_ediv_of_nonneg (by omega)
  rw [checkedSize, wide_eq_ok (n := high.toInt - low.toInt) (by omega) (by omega),
    wide_eq_ok (n := p.count) (by omega) (by omega)]
  change wide ((high.toInt - low.toInt).tdiv p.count) = _
  rw [htdiv, wide_eq_ok hsize (by omega)]

theorem checkedBound_eq (hword : p.count < 0x10000000000000000) (hle : low.toInt ≤ high.toInt)
    {i : Nat} (hi : i ≤ p.count) :
    checkedBound low (p.size low high) i = .ok (p.bound low high i) := by
  obtain ⟨hsize, hmul⟩ := mul_size_le hle hi
  have hoffset : 0 ≤ i * p.size low high := Int.mul_nonneg (by omega) hsize
  have hlow := low.le_toInt
  have hhigh := high.toInt_lt
  have hplace : wide (low.toInt + i * p.size low high) = .ok (low.toInt + i * p.size low high) :=
    if_pos (by omega)
  rw [checkedBound, wide_eq_ok (n := i) (by omega) (by omega)]
  change (do
    let offset ← wide (i * p.size low high)
    let place ← wide (low.toInt + offset)
    narrow place) = _
  rw [wide_eq_ok hoffset (by omega)]
  change (do
    let place ← wide (low.toInt + i * p.size low high)
    narrow place) = _
  rw [hplace, ← toInt_bound hle hi]
  exact narrow_toInt _

theorem checkedRange_eq (hword : p.count < 0x10000000000000000) (hle : low.toInt ≤ high.toInt)
    {i : Nat} (hi : i < p.count) :
    p.checkedRange low high (p.size low high) i =
      .ok (p.bound low high i, if i + 1 = p.count then high else p.bound low high (i + 1)) := by
  rw [checkedRange, checkedBound_eq hword hle (Nat.le_of_lt hi)]
  change (if i + 1 = p.count then _ else _) = _
  by_cases hlast : i + 1 = p.count
  · rw [if_pos hlast, if_pos hlast]
    rfl
  · rw [if_neg hlast, if_neg hlast, checkedBound_eq (i := i + 1) hword hle hi]
    rfl

theorem checkedRanges_eq (hword : p.count < 0x10000000000000000) (hle : low.toInt ≤ high.toInt) :
    p.checkedRanges low high = .ok (p.ranges low high) := by
  rw [checkedRanges, ranges]
  by_cases hwhole : p.count ≤ 1 ∨ high ≤ low
  · rw [if_pos hwhole, if_pos (hwhole.imp_right .inl)]
    rfl
  · rw [if_neg hwhole, checkedSize_eq hword hle]
    change (if p.size low high < 1 then _ else _) = _
    by_cases hsmall : p.size low high < 1
    · rw [if_pos hsmall, if_pos (.inr (.inr hsmall))]
      rfl
    · rw [if_neg hsmall, if_neg (by tauto)]
      exact mapM_eq_ok_map fun i hi => checkedRange_eq hword hle (List.mem_range.1 hi)

theorem length_ranges (hcount : 2 ≤ p.count) (hlt : low < high) :
    (p.ranges low high).length =
      if (p.count : Int) ≤ high.toInt - low.toInt then p.count else 1 := by
  have hsize : p.size low high < 1 ↔ ¬(p.count : Int) ≤ high.toInt - low.toInt := by
    rw [size, ← Int.not_le, Int.le_ediv_iff_mul_le (by omega), Int.one_mul]
  have hlt' := Int64.lt_iff_toInt_lt.1 hlt
  rw [ranges]
  by_cases hroom : (p.count : Int) ≤ high.toInt - low.toInt
  · have hsplit : ¬(p.count ≤ 1 ∨ high ≤ low ∨ p.size low high < 1) := by
      rw [hsize, Int64.le_iff_toInt_le]
      omega
    rw [if_neg hsplit, if_pos hroom, List.length_map, List.length_range]
  · rw [if_pos (.inr (.inr (hsize.2 hroom))), if_neg hroom]
    rfl

theorem lt_of_mem_ranges (hlt : low < high) {r : Int64 × Int64} (hr : r ∈ p.ranges low high) :
    r.1 < r.2 := by
  have hle := Int.le_of_lt (Int64.lt_iff_toInt_lt.1 hlt)
  rw [ranges] at hr
  split at hr
  · rw [List.mem_singleton.1 hr]
    exact hlt
  · next hsplit =>
    obtain ⟨i, hi, rfl⟩ := List.mem_map.1 hr
    have hi := List.mem_range.1 hi
    have hnext := (mul_size_le (p := p) (i := i + 1) hle hi).2
    have hstep : ((i + 1 : Nat) : Int) * p.size low high =
        i * p.size low high + p.size low high := by
      rw [Int.natCast_add, Int.add_mul, Int.natCast_one, Int.one_mul]
    rw [Int64.lt_iff_toInt_lt, toInt_bound hle (Nat.le_of_lt hi)]
    dsimp only
    split
    · omega
    · rw [toInt_bound (i := i + 1) hle hi]
      omega

/-- Up to two numbers that are any words, and for as many splits as a word can count, the arithmetic
of the ranges stays in words of 128 bits. Each bound is the word that it was computed as and lies
between the outer bounds. There are as many ranges as splits, or one; each has a number at least and
begins where the one before it ends, the first at the lower and the last up to the upper bound. -/
theorem ranges_stay_in_words (hcount : 2 ≤ p.count) (hword : p.count < 0x10000000000000000)
    (hlt : low < high) :
    p.checkedRanges low high = .ok (p.ranges low high) ∧
      (∀ i ≤ p.count, (p.bound low high i).toInt = low.toInt + i * p.size low high ∧
        low ≤ p.bound low high i ∧ p.bound low high i ≤ high) ∧
      (p.ranges low high).length =
        (if (p.count : Int) ≤ high.toInt - low.toInt then p.count else 1) ∧
      Consecutive low high (p.ranges low high) ∧ ∀ r ∈ p.ranges low high, r.1 < r.2 := by
  have hle := Int.le_of_lt (Int64.lt_iff_toInt_lt.1 hlt)
  refine ⟨checkedRanges_eq hword hle, fun i hi => ?_, length_ranges hcount hlt,
    consecutive_ranges hle, fun r hr => lt_of_mem_ranges hlt hr⟩
  have hplace := toInt_bound hle hi
  have hoffset : 0 ≤ i * p.size low high :=
    Int.mul_nonneg (by omega) (mul_size_le hle hi).1
  refine ⟨hplace, Int64.le_iff_toInt_le.2 ?_, Int64.le_iff_toInt_le.2 (bound_le_high hle hi)⟩
  omega

def finestPlan : SplitPlan where
  query := "SELECT * FROM t WHERE $CONDITIONS"
  column := "id"
  count := 0xffffffffffffffff

theorem ranges_stay_in_words_finest :
    2 ≤ finestPlan.count ∧ finestPlan.count < 0x10000000000000000 ∧
      Int64.minValue < Int64.maxValue ∧
      (finestPlan.ranges Int64.minValue Int64.maxValue).length = finestPlan.count ∧
      (finestPlan.bound Int64.minValue Int64.maxValue 0xfffffffffffffffe).toInt =
        0x7ffffffffffffffe := by
  have hcount : 2 ≤ finestPlan.count := by decide
  have hword : finestPlan.count < 0x10000000000000000 := by decide
  have hlt : Int64.minValue < Int64.maxValue := by decide
  obtain ⟨-, hbound, hlength, -⟩ := ranges_stay_in_words hcount hword hlt
  obtain ⟨hlast, -⟩ := hbound 0xfffffffffffffffe (by decide)
  exact ⟨hcount, hword, hlt, hlength.trans (if_pos (by decide)), hlast.trans (by decide)⟩

end TableTransfer.SplitPlan
