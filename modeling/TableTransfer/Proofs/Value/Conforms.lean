import TableTransfer.Dialect.Values
import TableTransfer.Proofs.Decimal.Exact

namespace TableTransfer.Value

/-- The values of the shapes without parts: stored as the shape says, with numbers that stand
for a date, a time of day or a moment, and decimals that need no more places than declared. -/
inductive Conforms : Value → Shape → Prop
  | boolean (b : Bool) : Conforms (.boolean b) .boolean
  | int (n : Int32) : Conforms (.int n) .int
  | long (n : Int64) : Conforms (.long n) .long
  | float (x : Binary32) : Conforms (.float x) .float
  | double (x : Binary64) : Conforms (.double x) .double
  | bytes (b : List UInt8) : Conforms (.bytes b) .bytes
  | string (s : String) : Conforms (.string s) .string
  | date {n : Int32} {d : Date} (h : (Value.int n).asDate? = some d) : Conforms (.int n) .date
  | timeMillis {n : Int32} (h0 : 0 ≤ n.toInt) (h : n.toInt < 86400000) :
      Conforms (.int n) .timeMillis
  | timeMicros {n : Int64} (h0 : 0 ≤ n.toInt) (h : n.toInt < 86400000000) :
      Conforms (.long n) .timeMicros
  | timestampMillis {n : Int64} {t : Timestamp} (h : (Value.long n).asTimestamp? .millis = some t) :
      Conforms (.long n) .timestampMillis
  | timestampMicros {n : Int64} {t : Timestamp} (h : (Value.long n).asTimestamp? .micros = some t) :
      Conforms (.long n) .timestampMicros
  | decimal {d : Decimal} {precision scale : Nat} (h : d.FitsScale scale) :
      Conforms (.decimal d) (.decimal precision scale)

theorem Conforms.isNull_eq {v : Value} {s : Shape} (h : v.Conforms s) : v.isNull = false := by
  cases h <;> rfl

theorem Conforms.ne_null {v : Value} {s : Shape} (h : v.Conforms s) : s ≠ .null := by
  cases h <;> exact Shape.noConfusion

/-- Equality, up to the places of a decimal and the pattern of a float that is no number. -/
inductive Same : Value → Value → Prop
  | refl (v : Value) : Same v v
  | decimal {d e : Decimal} (h : d.SameNumber e) : Same (.decimal d) (.decimal e)
  | notANumber {x y : Binary32} (hx : x.isNaN = true) (hy : y.isNaN = true) :
      Same (.float x) (.float y)

theorem Same.of_eq {v w : Value} (h : v = w) : Same v w := h ▸ .refl v

theorem Same.isNull_eq {v w : Value} (h : v.Same w) : v.isNull = w.isNull := by
  cases h <;> rfl

end TableTransfer.Value
