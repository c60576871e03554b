import RecordGraph.Decimal.Shortest

namespace RecordGraph.Decimal

/-- Where positional notation is used, which is for decimal points from `least` to `most` places after the first digit, and
what stands before an exponent that is not negative. -/
structure Layout where
  least : Int
  most : Int
  plus : String
  deriving DecidableEq, Repr

/-- The layout of numbers in values and messages: positional from `0.00001` to below `10 ^ 16`. -/
def Layout.plain : Layout := ⟨-4, 16, "+"⟩

def Layout.inspected : Layout := ⟨-3, 16, ""⟩

def zeros (n : Nat) : String := String.ofList (List.replicate n '0')

namespace Digits

/-- Positional text, with at least one digit on each side of the point. -/
def positional (d : Digits) : String :=
  let ds := Nat.repr d.digits
  let point := (ds.length : Int) + d.exponent
  if 0 ≤ d.exponent then ds ++ zeros d.exponent.toNat ++ ".0"
  else if 0 < point then
    String.ofList (ds.toList.take point.toNat) ++ "." ++ String.ofList (ds.toList.drop point.toNat)
  else "0." ++ zeros (-point).toNat ++ ds

/-- Scientific text: one digit before the point, and no point without digits after it. -/
def scientific (plus : String) (d : Digits) : String :=
  let ds := Nat.repr d.digits
  let e := (ds.length : Int) + d.exponent - 1
  let mantissa :=
    match ds.toList with
    | first :: second :: more => String.ofList (first :: '.' :: second :: more)
    | _ => ds
  mantissa ++ "e" ++ (if e < 0 then "-" else plus) ++ Nat.repr e.natAbs

def text (layout : Layout) (d : Digits) : String :=
  let point := (d.length : Int) + d.exponent
  if d.digits = 0 then "0.0"
  else if layout.least ≤ point ∧ point ≤ layout.most then d.positional
  else d.scientific layout.plus

end Digits

def Double.text (layout : Layout) (x : Double) : String :=
  (if x.negative then "-" else "") ++ (shortest x).text layout

end RecordGraph.Decimal
