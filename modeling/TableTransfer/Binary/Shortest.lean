import TableTransfer.Binary.Basic
import TableTransfer.Text.Number

namespace TableTransfer.Binary

/-- The numbers between `low` and `high` read back as `value`, the two ends too if `closed`.
All three are numerators over `den`. -/
structure Interval where
  value : Nat
  low : Nat
  high : Nat
  den : Nat
  closed : Bool

def Format.interval (f : Format) (magnitude : Nat) : Interval :=
  let (m, e) := f.decode magnitude
  let narrow := m = twoTo f.fraction ∧ f.least < e
  let (unit, den) := quotient 1 (e - 2)
  { value := 4 * m * unit
    low := (4 * m - if narrow then 1 else 2) * unit
    high := (4 * m + 2) * unit
    den := den
    closed := m % 2 = 0 }

def Interval.contains (i : Interval) (n : Nat) (k : Int) : Bool :=
  let point := n * tenTo k.toNat * i.den
  let unit := tenTo (-k).toNat
  if i.closed then i.low * unit ≤ point && point ≤ i.high * unit
  else i.low * unit < point && point < i.high * unit

/-- The neighbour of the value on the grid of multiples of `10 ^ k` that reads back, the
nearer one if both do, the upper one at equal distance. -/
def Interval.onGrid? (i : Interval) (k : Int) : Option Nat :=
  let num := i.value * tenTo (-k).toNat
  let den := i.den * tenTo k.toNat
  let q := num / den
  match i.contains q k, i.contains (q + 1) k with
  | true, true => some (roundHalfUp num den)
  | true, false => some q
  | false, true => some (q + 1)
  | false, false => none

def Interval.search (i : Interval) : Nat → Int → Nat × Int
  | 0, k => (i.value / i.den, k)
  | fuel + 1, k =>
    match i.onGrid? k with
    | some n => (n, k)
    | none => search i fuel (k - 1)

def Interval.above (i : Interval) : Int :=
  let bits : Int := (i.value.log2 : Int) - i.den.log2 + 1
  bits * 30103 / 100000 + 2

def Format.shortest (f : Format) (magnitude : Nat) : Nat × Int :=
  let i := f.interval magnitude
  i.search 40 i.above

def positional (n : Nat) (k : Int) : List Char :=
  if 0 ≤ k then
    if n = 0 then ['0'] else Text.digits n ++ List.replicate k.toNat '0'
  else
    let places := (-k).toNat
    let whole := n / tenTo places
    Text.digits whole ++ '.' :: Text.padded places (n % tenTo places)

end Binary

/-- The number in full, with the fewest digits that read back, and never with an exponent. -/
def Binary64.text (x : Binary64) : String :=
  if x.isNaN then "NaN"
  else
    let sign := if x.negative then ['-'] else []
    String.ofList <| sign ++
      if x.isFinite then
        if x.magnitude = 0 then ['0']
        else
          let (n, k) := Binary.double.shortest x.magnitude
          Binary.positional n k
      else ['i', 'n', 'f']

end TableTransfer
