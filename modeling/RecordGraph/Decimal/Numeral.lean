import RecordGraph.Decimal.Double

namespace RecordGraph.Decimal

def ofDigits (cs : List Char) : Nat := cs.foldl (fun n c => 10 * n + (c.toNat - '0'.toNat)) 0

def natural? (cs : List Char) : Option Nat :=
  if cs ≠ [] ∧ cs.all Char.isDigit then some (ofDigits cs) else none

/-- A count below `2 ^ 64`: decimal digits, after a plus sign if one is written. -/
def count? (text : String) : Option Nat :=
  let digits := match text.toList with
    | '+' :: rest => rest
    | cs => cs
  (natural? digits).filter (· < UInt64.size)

def integer? (cs : List Char) : Option Int :=
  match cs with
  | '-' :: rest => (natural? rest).map fun n => -(n : Int)
  | '+' :: rest => (natural? rest).map Int.ofNat
  | _ => (natural? cs).map Int.ofNat

/-- The parts of a decimal number: sign, digits before and after the point, exponent. -/
structure Scientific where
  negative : Bool
  whole : List Char
  fraction : List Char
  exponent : Int
  deriving DecidableEq, Repr

namespace Scientific

/-- Its digits as one number; the point stands before the last `fraction.length` of them. -/
def significand (s : Scientific) : Nat := ofDigits (s.whole ++ s.fraction)

/-- The nearest floating-point number. Magnitudes far outside the range need no exact power. -/
def toDouble (s : Scientific) : Double :=
  let m := s.significand
  let e := s.exponent - s.fraction.length
  let top := (Nat.repr m).length + e
  if m = 0 ∨ top < -400 then .ofMagnitude s.negative 0
  else if 400 < top then .infinity s.negative
  else if 0 ≤ e then .ofRatio s.negative (m * powerOfTen e.toNat) 1
  else .ofRatio s.negative m (powerOfTen (-e).toNat)

end Scientific

def exponent? : List Char → Option Int
  | [] => some 0
  | c :: rest => if c = 'e' ∨ c = 'E' then integer? rest else none

/-- A decimal number: at most one sign, digits with at most one point among or around them, and an exponent part. -/
def scientific? (cs : List Char) : Option Scientific := do
  let (negative, cs) := match cs with
    | '-' :: rest => (true, rest)
    | '+' :: rest => (false, rest)
    | _ => (false, cs)
  let whole := cs.takeWhile Char.isDigit
  let (fraction, rest) := match cs.dropWhile Char.isDigit with
    | '.' :: rest => (rest.takeWhile Char.isDigit, rest.dropWhile Char.isDigit)
    | rest => ([], rest)
  if whole.isEmpty && fraction.isEmpty then none
  else return ⟨negative, whole, fraction, ← exponent? rest⟩

/-- The number that a word names: an infinity or a NaN, in letters of either case and after at most one sign. -/
def named? (cs : List Char) : Option Double :=
  let (negative, word) := match cs with
    | '-' :: rest => (true, rest)
    | '+' :: rest => (false, rest)
    | _ => (false, cs)
  match String.ofList (word.map Char.toLower) with
  | "inf" | "infinity" => some (.infinity negative)
  | "nan" => some .nan
  | _ => none

def double? (cs : List Char) : Option Double :=
  match scientific? cs with
  | some s => some s.toDouble
  | none => named? cs

end RecordGraph.Decimal
