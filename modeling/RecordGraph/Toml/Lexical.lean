import RecordGraph.Text.Scan
import RecordGraph.Text.Quoted
import RecordGraph.Time.Reader
import RecordGraph.Toml.Item

namespace RecordGraph.Toml

open Text Text.Scan Decimal

def isGap (c : Char) : Bool := c == ' ' || c == '\t'

/-- Characters that can stand in a line: no control character but the tab. -/
def inLine (c : Char) : Bool := c == '\t' || (0x20 ≤ c.toNat && c.toNat ≠ 0x7F)

def gap : Scan Unit := do
  let _ ← takeWhile isGap

def newline : Scan Unit := literal "\n" <|> literal "\r\n"

def comment : Scan Unit := do
  if ← startsWith "#" then
    let _ ← takeWhile inLine

/-- Passes over blanks, comments and ends of lines. -/
def wideGap : Scan Unit := do
  gap
  comment
  let _ ← many do
    newline
    gap
    comment

def codePoint (digits : Nat) : Scan Char := fun cs =>
  match (hexNumber? (cs.take digits)).bind ofCodePoint? with
  | some c => if (cs.take digits).length = digits then some (c, cs.drop digits) else none
  | none => none

def escaped : Scan Char := do
  literal "\\"
  match ← satisfy fun _ => true with
  | 'u' => codePoint 4
  | 'U' => codePoint 8
  | '/' => failure
  | c => (unescape? c : Option Char)

def basicString : Scan String := do
  literal "\""
  let cs ← many (escaped <|> satisfy fun c => inLine c && c != '"' && c != '\\')
  literal "\""
  return String.ofList cs

def literalString : Scan String := do
  literal "'"
  let cs ← takeWhile fun c => inLine c && c != '\''
  literal "'"
  return String.ofList cs

def lineBreak : Scan (List Char) := do
  newline
  return ['\n']

/-- A backslash at the end of a line: it and all blanks after it count for nothing. -/
def continuation : Scan (List Char) := do
  literal "\\"
  gap
  newline
  let _ ← many (gap *> newline)
  gap
  return []

/-- A quote that is not the first of three. -/
def loneQuote (quote : Char) : Scan (List Char) := do
  if ← startsWith (String.ofList [quote, quote, quote]) then failure
  let c ← oneOf [quote]
  return [c]

/-- The three quotes at the end of a string, after at most two that belong to it. -/
def closingQuotes (quote : Char) : Scan (List Char) := do
  literal (String.ofList [quote, quote, quote])
  let a ← optional (oneOf [quote])
  let b ← optional (oneOf [quote])
  return a.toList ++ b.toList

/-- The pieces of a string between three quotes; a line break right after the opening quotes does not belong to it. -/
def longString (quote : Char) (piece : Scan (List Char)) : Scan String := do
  literal (String.ofList [quote, quote, quote])
  let _ ← optional newline
  let pieces ← many (piece <|> lineBreak <|> loneQuote quote)
  return String.ofList (pieces.flatten ++ (← closingQuotes quote))

def longBasicString : Scan String :=
  longString '"' <|
    continuation <|> (escaped.map fun c => [c]) <|>
      (satisfy fun c => inLine c && c != '"' && c != '\\').map fun c => [c]

def longLiteralString : Scan String :=
  longString '\'' <| (satisfy fun c => inLine c && c != '\'').map fun c => [c]

def anyString : Scan String := do
  if ← startsWith "\"\"\"" then longBasicString
  else if ← startsWith "\"" then basicString
  else if ← startsWith "'''" then longLiteralString
  else literalString

def inBareKey (c : Char) : Bool := c.isAlphanum || c == '_' || c == '-'

def simpleKey : Scan String := do
  if ← startsWith "\"" then basicString
  else if ← startsWith "'" then literalString
  else
    let cs ← takeWhile inBareKey
    if cs.isEmpty then failure
    return String.ofList cs

/-- The most parts that a key has, and the most arrays and tables inside each other. -/
def maxDepth : Nat := 79

def keyPath : Scan (List String) := do
  let first ← simpleKey
  let more ← many do
    gap
    literal "."
    gap
    simpleKey
  if more.length < maxDepth then return first :: more else failure

/-- Digits of a class with single underscores between them, without the underscores. -/
def grouped? (digit : Char → Bool) : List Char → Option (List Char)
  | [] => none
  | [c] => if digit c then some [c] else none
  | c :: '_' :: rest => if digit c then (grouped? digit rest).map (c :: ·) else none
  | c :: rest => if digit c then (grouped? digit rest).map (c :: ·) else none

def signed (cs : List Char) : Bool × List Char :=
  match cs with
  | '-' :: rest => (true, rest)
  | '+' :: rest => (false, rest)
  | _ => (false, cs)

/-- Decimal digits without a zero in front of others. -/
def wholePart? (cs : List Char) : Option (List Char) := do
  let ds ← grouped? Char.isDigit cs
  if ds.head? = some '0' ∧ cs.length ≠ 1 then none else some ds

def inRange? (i : Int) : Option Int := if Int64.minValue.toInt ≤ i ∧ i ≤ Int64.maxValue.toInt then some i else none

def based? (base : Nat) (cs : List Char) : Option Int := do
  let ds ← grouped? (fun c => (hexValue? c).any (· < base)) cs
  inRange? (ds.foldl (fun n c => base * n + (hexValue? c).getD 0) 0)

/-- An integer: decimal with a sign or not, or hexadecimal, octal or binary. -/
def integer? (cs : List Char) : Option Int :=
  match cs with
  | '0' :: 'x' :: rest => based? 16 rest
  | '0' :: 'o' :: rest => based? 8 rest
  | '0' :: 'b' :: rest => based? 2 rest
  | _ => do
    let (negative, rest) := signed cs
    let n : Int := ofDigits (← wholePart? rest)
    inRange? (if negative then -n else n)

def exponentPart? (cs : List Char) : Option Int := do
  let (negative, rest) := signed cs
  let n : Int := ofDigits (← grouped? Char.isDigit rest)
  return if negative then -n else n

/-- A floating-point number: with a fraction, an exponent or both, or one of the names. -/
def float? (cs : List Char) : Option Double := do
  let (negative, rest) := signed cs
  if rest = ['i', 'n', 'f'] then return .infinity negative
  if rest = ['n', 'a', 'n'] then return .nan
  let isMark (c : Char) : Bool := c == 'e' || c == 'E'
  let body := rest.takeWhile fun c => !isMark c
  let e ← match rest.dropWhile fun c => !isMark c with
    | _ :: e => (exponentPart? e).map some
    | [] => some none
  let whole ← wholePart? (body.takeWhile (· != '.'))
  let fraction ← match body.dropWhile (· != '.') with
    | _ :: fraction => (grouped? Char.isDigit fraction).map some
    | [] => some none
  if e.isNone && fraction.isNone then none
  else
    let x := (Scientific.mk negative whole (fraction.getD []) (e.getD 0)).toDouble
    if x = .infinity false then none else some x

def date : Scan Unit := do
  let year ← Time.exactly 4
  literal "-"
  let month ← Time.exactly 2
  literal "-"
  let day ← Time.exactly 2
  if !(Time.Date.mk year month day).isValid then failure

def time : Scan Unit := do
  let hour ← Time.exactly 2
  literal ":"
  let minute ← Time.exactly 2
  literal ":"
  let second ← Time.exactly 2
  let _ ← Time.fraction
  if !(hour < 24 && minute < 60 && second ≤ 60) then failure

/-- A time of day that may have an offset from universal time. -/
def zonedTime : Scan Unit := do
  time
  match ← peek? with
  | some c => if c ∈ ['Z', 'z', '+', '-'] then let _ ← Time.offset
  | none => pure ()

def inScalar (c : Char) : Bool :=
  c.isAlphanum || c == '_' || c == '+' || c == '-' || c == '.' || c == ':'

def isWhole (step : Scan Unit) (cs : List Char) : Bool := ((step *> atEnd) cs).isSome

/-- A value without parts that is no string. A date and a time may have a space between them. -/
def scalar : Scan Item := do
  let cs ← takeWhile inScalar
  if cs = ['t', 'r', 'u', 'e'] then return .boolean true
  if cs = ['f', 'a', 'l', 's', 'e'] then return .boolean false
  if isWhole date cs then
    let later ← optional do
      literal " "
      let more ← takeWhile inScalar
      if isWhole zonedTime more then return more else failure
    match later with
    | some more => return .moment (String.ofList (cs ++ ' ' :: more))
    | none => return .moment (String.ofList cs)
  if isWhole (date *> oneOf ['T', 't'] *> zonedTime) cs || isWhole time cs then
    return .moment (String.ofList cs)
  match integer? cs with
  | some i => return .integer i
  | none =>
    let x ← (float? cs : Option Double)
    return .float x

end RecordGraph.Toml
