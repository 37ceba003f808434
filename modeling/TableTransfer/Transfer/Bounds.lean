import TableTransfer.Memory.Connection
import TableTransfer.Transfer.Split
import TableTransfer.Value.Narrow

namespace TableTransfer

/-- The first two columns of the first row; nothing if both are NULL. -/
def splitBounds (c : Connection) (sql : String) : Except Error (Option (Int64 × Int64)) := do
  let (found, cur) := (← c.query sql).next
  if !found then throw (.resource (.noBounds sql))
  match ← cur.int64 1, ← cur.int64 2 with
  | some least, some greatest =>
    if least.toInt ≤ greatest.toInt then return some (least, greatest)
    else throw (.resource (.boundsCrossed least.toInt greatest.toInt sql))
  | none, none => return none
  | _, _ => throw (.resource (.oneNullBound sql))

namespace SplitPlan

def size (p : SplitPlan) (low high : Int64) : Int := (high.toInt - low.toInt) / p.count

/-- Where a range begins, or the upper end of all ranges should that be no word. -/
def bound (p : SplitPlan) (low high : Int64) (index : Nat) : Int64 :=
  (int64? (low.toInt + index * p.size low high)).getD high

/-- The bounds of each split. Bounds that are too near to each other are not split. -/
def ranges (p : SplitPlan) (low high : Int64) : List (Int64 × Int64) :=
  if p.count ≤ 1 ∨ high ≤ low ∨ p.size low high < 1 then [(low, high)]
  else
    (List.range p.count).map fun i =>
      (p.bound low high i, if i + 1 = p.count then high else p.bound low high (i + 1))

def rangePredicates : List (Int64 × Int64) → List SplitPredicate
  | [] => []
  | [(low, high)] => [.upTo low high]
  | (low, high) :: rest => .below low high :: rangePredicates rest

/-- One predicate for each split; that of the rows without a value comes last. -/
def predicates (p : SplitPlan) (low high : Int64) : List SplitPredicate :=
  if p.count = 1 then [.everything]
  else rangePredicates (p.ranges low high) ++ if p.withNulls then [.null] else []

def predicatesWithoutBounds (p : SplitPlan) : List SplitPredicate :=
  if p.count = 1 then [.everything] else [.null]

def queryFor (p : SplitPlan) (predicate : SplitPredicate) : String :=
  String.ofList (Text.replace conditionsWord (predicate.text p.column).toList p.query.toList)

def queries (p : SplitPlan) (low high : Int64) : List String :=
  (p.predicates low high).map p.queryFor

def queriesWithoutBounds (p : SplitPlan) : List String := p.predicatesWithoutBounds.map p.queryFor

end SplitPlan

end TableTransfer
