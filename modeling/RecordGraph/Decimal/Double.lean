namespace RecordGraph.Decimal

/-- A binary floating-point number of 64 bits: a sign bit, 11 bits of exponent and 52 bits of fraction. -/
structure Double where
  bits : UInt64
  deriving DecidableEq, Repr

def powerOfTen (n : Nat) : Nat := Nat.pow 10 n

/-- The quotient of `num` and `den` rounded to the nearest integer, a half to the even neighbour. -/
def roundHalfEven (num den : Nat) : Nat :=
  let q := num / den
  let r := num % den
  if 2 * r < den then q else if den < 2 * r then q + 1 else q + q % 2

namespace Double

def signBit : Nat := 0x8000000000000000

def fractions : Nat := 0x10000000000000

/-- The bits of positive infinity, above those of every finite magnitude. -/
def infinityBits : Nat := 0x7FF0000000000000

def magnitude (x : Double) : Nat := x.bits.toNat % signBit

def negative (x : Double) : Bool := decide (signBit ≤ x.bits.toNat)

def isFinite (x : Double) : Bool := x.magnitude < infinityBits

def isNaN (x : Double) : Bool := infinityBits < x.magnitude

/-- The number with this sign and these other bits. -/
def ofMagnitude (negative : Bool) (m : Nat) : Double :=
  ⟨UInt64.ofNat (if negative then signBit + m else m)⟩

def infinity (negative : Bool) : Double := ofMagnitude negative infinityBits

def nan : Double := ofMagnitude false (infinityBits + fractions / 2)

/-- The significand and exponent of a finite number: its magnitude is `m * 2 ^ q`. -/
def scaled (x : Double) : Nat × Int :=
  let e : Nat := x.magnitude / fractions
  let f := x.magnitude % fractions
  if e = 0 then (f, -1074) else (fractions + f, Int.ofNat e - 1075)

/-- The quotient `num / den` times `2 ^ q` as a quotient. -/
def scaleRatio (num den : Nat) (q : Int) : Nat × Nat :=
  if 0 ≤ q then (num <<< q.toNat, den) else (num, den <<< (-q).toNat)

/-- The greatest `k` with `2 ^ k ≤ num / den`, for positive numbers. -/
def binaryExponent (num den : Nat) : Int :=
  let k : Int := (Nat.log2 num : Int) - Nat.log2 den
  let (n, d) := scaleRatio num den (-k)
  if d ≤ n then k else k - 1

/-- The number nearest to a quotient of naturals, ties to the even significand; what is too large is infinite. -/
def ofRatio (negative : Bool) (num den : Nat) : Double :=
  if num = 0 then ofMagnitude negative 0
  else
    let q := max (binaryExponent num den - 52) (-1074)
    let (n, d) := scaleRatio num den (-q)
    let m := (q + 1074).toNat * fractions + roundHalfEven n d
    ofMagnitude negative (min m infinityBits)

def ofInt (i : Int) : Double := ofRatio (decide (i < 0)) i.natAbs 1

def mul (x y : Double) : Double :=
  let (m, p) := x.scaled
  let (n, q) := y.scaled
  let (num, den) := scaleRatio (m * n) 1 (p + q)
  ofRatio (x.negative != y.negative) num den

def div (x y : Double) : Double :=
  let (m, p) := x.scaled
  let (n, q) := y.scaled
  let (num, den) := scaleRatio m n (p - q)
  ofRatio (x.negative != y.negative) num den

/-- Numeric equality: zeros of both signs are equal, and a NaN equals nothing. -/
def same (x y : Double) : Bool :=
  !x.isNaN && !y.isNaN && (x.bits == y.bits || (x.magnitude == 0 && y.magnitude == 0))

end Double

end RecordGraph.Decimal
