import RecordGraph.Pattern.Atom

namespace RecordGraph.Pattern

open Text Text.Scan

/-- Parts that stand side by side: how many they are, and the depth of the deepest. -/
structure Row where
  count : Nat
  depth : Nat
  deriving DecidableEq, Repr

namespace Row

def empty : Row := ⟨0, 0⟩

def add (r : Row) (depth : Nat) : Row := ⟨r.count + 1, max r.depth depth⟩

/-- The depth of all parts together: a single part is not nested in a row. -/
def total (r : Row) : Nat := if 2 ≤ r.count then r.depth + 1 else r.depth

end Row

/-- A set that is not closed yet: the depth of what stands before its last operator, and what stands after it. -/
structure OpenSet where
  left : Option Nat
  items : Row
  deriving DecidableEq, Repr

namespace OpenSet

/-- The depth of the operands so far. Operators group to the left. -/
def depth (s : OpenSet) : Nat :=
  match s.left with
  | none => s.items.total
  | some d => max d s.items.total + 1

def add (s : OpenSet) (depth : Nat) : OpenSet := { s with items := s.items.add depth }

end OpenSet

/-- The start of a set after its bracket. Only a Unicode set can be negated; dashes stand for themselves there, and
without any, so does a closing bracket. -/
def setStart (m : Manner) : Scan OpenSet := do
  gap m
  if ← startsWith "^" then
    if m.unicode then literal "^" else failure
    gap m
  let dashes ← many (oneOf ['-'] <* gap m)
  if dashes.isEmpty && (← startsWith "]") then
    literal "]"
    return ⟨none, Row.empty.add 0⟩
  return ⟨none, dashes.length, 0⟩

def setAtom (m : Manner) : Scan Atom := do
  match ← satisfy fun _ => true with
  | '\\' => escaped m
  | c => return .literal c

/-- The character that tells whether a dash before it makes a range. Blanks before it do not count, nor does the hash
sign of a comment. -/
def afterDash (m : Manner) (cs : List Char) : Option Char :=
  if m.spaced then
    let past := match trimStart cs with
      | '#' :: rest => trimStart rest
      | rest => rest
    past.head?.or cs.head?
  else cs.head?

/-- Whether a range goes on here: a dash that is neither the last character of the set nor part of an operator. -/
def rangeGoesOn (m : Manner) : Scan Bool := fun cs =>
  let isRange := match cs with
    | '-' :: rest => !(afterDash m rest).any ['-', ']'].contains
    | _ => false
  some (isRange, cs)

def setItem (m : Manner) : Scan Unit := do
  let first ← setAtom m
  gap m
  if !first.inSet m.unicode then failure
  if ← rangeGoesOn m then
    literal "-"
    gap m
    let last ← setAtom m
    match first.character?, last.character? with
    | some a, some b => if a ≤ b ∧ last.inSet m.unicode then return () else failure
    | _, _ => failure

def classNames : List String :=
  ["alnum", "alpha", "ascii", "blank", "cntrl", "digit", "graph", "lower", "print", "punct", "space", "upper", "word",
    "xdigit"]

/-- A class that is named between colons; gives whether it is negated. -/
def namedClass : Scan Bool := do
  literal "[:"
  let negated ← startsWith "^"
  if negated then literal "^"
  let name ← takeWhile (· != ':')
  literal ":]"
  if classNames.contains (String.ofList name) then return negated else failure

inductive SetPart
  | operator
  | item
  | inner (s : OpenSet)
  | close
  deriving DecidableEq, Repr

/-- The next part of a set. A bracket that starts no class starts a set. -/
def setPart (m : Manner) : Scan SetPart := do
  gap m
  if ← startsWith "]" then
    literal "]"
    return .close
  match ← optional (literal "&&" <|> literal "--" <|> literal "~~") with
  | some _ => return .operator
  | none =>
    match ← optional namedClass with
    | some negated => if negated && !m.unicode then failure else return .item
    | none =>
      if ← startsWith "[" then
        literal "["
        return .inner (← setStart m)
      setItem m
      return .item

/-- Reads the rest of some sets, the innermost first; gives the depth of the outermost. Each part takes a character. -/
def setsFrom (m : Manner) : Nat → OpenSet → List OpenSet → Scan Nat
  | 0, _, _ => failure
  | n + 1, s, outer => do
    match ← setPart m, outer with
    | .operator, _ => setsFrom m n ⟨some s.depth, Row.empty⟩ outer
    | .item, _ => setsFrom m n (s.add 0) outer
    | .inner t, _ => setsFrom m n t (s :: outer)
    | .close, t :: outer => setsFrom m n (t.add (s.depth + 1)) outer
    | .close, [] => return s.depth + 1

def set (m : Manner) : Scan Nat := do
  literal "["
  let s ← setStart m
  fun cs => setsFrom m cs.length s [] cs

end RecordGraph.Pattern
