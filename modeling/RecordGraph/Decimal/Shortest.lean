import RecordGraph.Decimal.Double

namespace RecordGraph.Decimal

/-- A decimal number: `digits * 10 ^ exponent`. -/
structure Digits where
  digits : Nat
  exponent : Int
  deriving DecidableEq, Repr

namespace Digits

def length (d : Digits) : Nat := (Nat.repr d.digits).length

def strip (d : Digits) : Digits :=
  let rec go : Nat → Digits → Digits
    | 0, d => d
    | fuel + 1, d => if d.digits % 10 = 0 then go fuel ⟨d.digits / 10, d.exponent + 1⟩ else d
  if d.digits = 0 then ⟨0, 0⟩ else go d.length d

end Digits

/-- The positive reals that round to one number, in units of `2 ^ unit`: from `low` to `high` around `value`, with the
ends if `closed`. -/
structure Interval where
  low : Nat
  value : Nat
  high : Nat
  unit : Int
  closed : Bool
  deriving DecidableEq, Repr

namespace Interval

/-- The interval of a positive finite number. Half the distance to each neighbour is on its side, and the ends belong
to the number whose significand is even. -/
def ofDouble (x : Double) : Interval :=
  let (m, q) := x.scaled
  let below := if m = Double.fractions ∧ -1074 < q then 1 else 2
  ⟨4 * m - below, 4 * m, 4 * m + 2, q - 2, m % 2 = 0⟩

def contains (i : Interval) (num den : Nat) : Bool :=
  if i.closed then i.low * den ≤ num && num ≤ i.high * den
  else i.low * den < num && num < i.high * den

def power (i : Interval) (e : Int) : Nat × Nat :=
  let (n, d) := if 0 ≤ e then (powerOfTen e.toNat, 1) else (1, powerOfTen (-e).toNat)
  Double.scaleRatio n d (-i.unit)

/-- The decimal on the grid of `10 ^ e` that lies in the interval and is nearest to the value, the even one of two that
are equally near. -/
def onGrid? (i : Interval) (e : Int) : Option Digits :=
  let (n, d) := i.power e
  let k := i.value * d / n
  let lower := k * n
  let upper := (k + 1) * n
  let value := i.value * d
  match 0 < k && i.contains lower d, i.contains upper d with
  | true, true =>
    if value - lower < upper - value then some ⟨k, e⟩
    else if upper - value < value - lower then some ⟨k + 1, e⟩
    else some ⟨k + k % 2, e⟩
  | true, false => some ⟨k, e⟩
  | false, true => some ⟨k + 1, e⟩
  | false, false => none

def decimalExponent (i : Interval) : Int :=
  let guess : Int := (((Nat.log2 i.value : Int) + i.unit) * 1233) / 4096
  let fits (k : Int) : Bool := let (n, d) := i.power k; n ≤ i.value * d
  if fits (guess + 1) then guess + 1 else if fits guess then guess else guess - 1

end Interval

/-- The shortest digits of a finite number. Seventeen digits always suffice. -/
def shortest (x : Double) : Digits :=
  if x.magnitude = 0 then ⟨0, 0⟩
  else
    let i := Interval.ofDouble x
    let top := i.decimalExponent
    match (List.range 17).findSome? fun (n : Nat) => i.onGrid? (top - n) with
    | some d => d.strip
    | none => ⟨0, 0⟩

end RecordGraph.Decimal
