import RecordGraph.Time.Instant
import RecordGraph.Text.Blank
import RecordGraph.Text.Scan
import RecordGraph.Decimal.Numeral

namespace RecordGraph.Time

open Decimal (ofDigits)
open Text Text.Scan

def exactly (n : Nat) : Scan Nat := fun cs =>
  let ds := cs.take n
  if ds.length = n ∧ ds.all Char.isDigit then some (ofDigits ds, cs.drop n) else none

/-- A number of at least one digit; at most `n` are read. -/
def atMost (n : Nat) : Scan Nat := fun cs =>
  let ds := (cs.take n).takeWhile Char.isDigit
  if ds.isEmpty then none else some (ofDigits ds, cs.drop ds.length)

def allDigits : Scan Nat := fun cs => atMost cs.length cs

def blanks : Scan Unit := fun cs => some ((), trimStart cs)

/-- The nanoseconds of a fraction, if a point starts one. Digits after the ninth count for nothing. -/
def fraction : Scan Nat
  | '.' :: cs =>
    let ds := cs.takeWhile Char.isDigit
    if ds.isEmpty then none
    else some (ofDigits ((ds ++ List.replicate 9 '0').take 9), cs.drop ds.length)
  | cs => some (0, cs)

def instant? (year : Int) (month day hour minute second nano : Nat) : Option Instant :=
  let t : Instant := ⟨⟨year, month, day⟩, 60 * hour + minute, second, nano⟩
  if hour < 24 ∧ minute < 60 ∧ t.isValid then some t else none

def offset : Scan Int := do
  match ← oneOf ['Z', 'z', '+', '-', '\u2212'] with
  | 'Z' | 'z' => return 0
  | sign =>
    let hours ← exactly 2
    let _ ← oneOf [':']
    let minutes ← exactly 2
    guard (hours < 24 && minutes < 60)
    return if sign = '+' then 60 * hours + minutes else -(60 * hours + minutes)

def withOffset : Scan Instant := do
  let year ← exactly 4
  let _ ← oneOf ['-']
  let month ← exactly 2
  let _ ← oneOf ['-']
  let day ← exactly 2
  let _ ← oneOf ['T', 't', ' ']
  let hour ← exactly 2
  let _ ← oneOf [':']
  let minute ← exactly 2
  let _ ← oneOf [':']
  let second ← exactly 2
  let nano ← fraction
  let t ← (instant? year month day hour minute second nano : Option Instant)
  let ahead ← offset
  atEnd
  return t.behind ahead

/-- A year: at most four digits, or a sign and any number of them. -/
def signedYear : Scan Int := do
  blanks
  match ← get with
  | '-' :: rest => set rest; return -((← allDigits : Nat) : Int)
  | '+' :: rest => set rest; return (← allDigits : Nat)
  | _ => return (← atMost 4 : Nat)

def short : Scan Nat := do
  blanks
  atMost 2

def withoutOffset : Scan Instant := do
  let year ← signedYear
  let _ ← oneOf ['-']
  let month ← short
  let _ ← oneOf ['-']
  let day ← short
  let _ ← oneOf ['T']
  let hour ← short
  let _ ← oneOf [':']
  let minute ← short
  let _ ← oneOf [':']
  let second ← short
  let nano ← fraction
  atEnd
  (instant? year month day hour minute second nano : Option Instant)

def Instant.ofText? (text : String) : Option Instant :=
  match withOffset.run text.toList with
  | some (t, _) => some t
  | none => (withoutOffset.run text.toList).map Prod.fst

end RecordGraph.Time
