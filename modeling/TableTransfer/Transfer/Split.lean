import TableTransfer.Error
import TableTransfer.Text.Basic
import TableTransfer.Text.Unicode

namespace TableTransfer

def conditionsWord : List Char := "$CONDITIONS".toList

inductive SplitPredicate where
  | everything
  | below (low high : Int64)
  | upTo (low high : Int64)
  | null
deriving DecidableEq

namespace SplitPredicate

def Holds (p : SplitPredicate) (cell : Option Int) : Prop :=
  match p, cell with
  | everything, _ => True
  | below low high, some x => low.toInt ≤ x ∧ x < high.toInt
  | upTo low high, some x => low.toInt ≤ x ∧ x ≤ high.toInt
  | null, none => True
  | _, _ => False

instance : (p : SplitPredicate) → (cell : Option Int) → Decidable (p.Holds cell)
  | everything, _ => isTrue trivial
  | below low high, some x => inferInstanceAs (Decidable (low.toInt ≤ x ∧ x < high.toInt))
  | upTo low high, some x => inferInstanceAs (Decidable (low.toInt ≤ x ∧ x ≤ high.toInt))
  | null, none => isTrue trivial
  | below .., none | upTo .., none | null, some _ => isFalse id

def text (column : String) : SplitPredicate → String
  | everything => "(1 = 1)"
  | below low high => within "<" low high
  | upTo low high => within "<=" low high
  | null => "(" ++ column ++ " IS NULL)"
where
  within (op : String) (low high : Int64) : String :=
    "(" ++ column ++ " >= " ++ Text.intText low.toInt ++ " AND " ++ column ++ " " ++ op ++ " " ++
      Text.intText high.toInt ++ ")"

end SplitPredicate

structure SplitPlan where
  query : String
  column : String
  count : Nat
  withNulls : Bool := false
deriving DecidableEq

namespace SplitPlan

def make (query column : String) (count : Nat) : Except Error SplitPlan :=
  if count = 0 then .error (.config .noSplits)
  else if 1 < count ∧ !Text.holds conditionsWord query.toList then .error (.config .noConditions)
  else if 1 < count ∧ (Text.trim column.toList).isEmpty then .error (.config .noSplitColumn)
  else .ok { query, column, count }

end SplitPlan

end TableTransfer
