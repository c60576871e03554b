import RecordGraph.Json.Basic
import RecordGraph.Decimal.Numeral

namespace RecordGraph.Number

open Decimal

/-- Appends digits to a significand as long as it stays below `2 ^ 64`, and says how many. -/
def appendDigits (m : Nat) : List Char → Nat × Nat
  | [] => (m, 0)
  | c :: cs =>
    let n := 10 * m + (c.toNat - '0'.toNat)
    if n < UInt64.size then
      let (r, k) := appendDigits n cs
      (r, k + 1)
    else (m, 0)

def roundedPower (n : Nat) : Double := .ofRatio false (powerOfTen n) 1

def maxPower : Nat := 308

/-- The quotient by a power of ten, in steps that are each finite. -/
def divideByPower (x : Double) (n : Nat) : Double :=
  if n ≤ maxPower then x.div (roundedPower n)
  else if x.magnitude = 0 then x
  else divideByPower (x.div (roundedPower maxPower)) (n - maxPower)
termination_by n
decreasing_by simp only [maxPower] at *; omega

def scale? (m : Nat) (e : Int) : Option Double :=
  let x := Double.ofInt m
  if e < 0 then some (divideByPower x e.natAbs)
  else if e.natAbs ≤ maxPower then some (x.mul (roundedPower e.natAbs)) |>.filter Double.isFinite
  else if m = 0 then some x
  else none

/-- An integer: exact if it has 64 bits with or without sign. Minus zero is a floating-point number. -/
def ofSignificand (negative : Bool) (m : Nat) : Number :=
  if !negative then .int m
  else if m = 0 ∨ Double.signBit < m then .float (.ofRatio true m 1)
  else .int (-(m : Int))

/-- The digits before the point: no zero in front of other digits. -/
def isWhole : List Char → Bool
  | [] => false
  | ['0'] => true
  | c :: cs => c ≠ '0' && (c :: cs).all Char.isDigit

def ofText? (cs : List Char) : Option Number := do
  let (negative, cs) := match cs with
    | '-' :: rest => (true, rest)
    | _ => (false, cs)
  let whole := cs.takeWhile Char.isDigit
  guard (isWhole whole)
  let (m, taken) := appendDigits 0 whole
  let dropped : Int := whole.length - taken
  let sign (x : Double) : Number := .float (.ofMagnitude negative x.magnitude)
  match cs.dropWhile Char.isDigit with
  | [] => if dropped = 0 then some (ofSignificand negative m) else (scale? m dropped).map sign
  | '.' :: rest =>
    let fraction := rest.takeWhile Char.isDigit
    guard (!fraction.isEmpty)
    let (m, taken) := appendDigits m fraction
    let e ← exponent? (rest.dropWhile Char.isDigit)
    (scale? m (dropped - taken + e)).map sign
  | rest =>
    let e ← exponent? rest
    (scale? m (dropped + e)).map sign

end RecordGraph.Number
