namespace RecordGraph.Text

/-- A step of a reading. -/
abbrev Scan := StateT (List Char) Option

namespace Scan

def satisfy (p : Char → Bool) : Scan Char
  | c :: rest => if p c then some (c, rest) else none
  | [] => none

def oneOf (cs : List Char) : Scan Char := satisfy cs.contains

def literal (text : String) : Scan Unit := fun cs =>
  if text.toList.isPrefixOf cs then some ((), cs.drop text.length) else none

def takeWhile (p : Char → Bool) : Scan (List Char) := fun cs => some (cs.takeWhile p, cs.dropWhile p)

def startsWith (text : String) : Scan Bool := fun cs => some (text.toList.isPrefixOf cs, cs)

def peek? : Scan (Option Char) := fun cs => some (cs.head?, cs)

def atEnd : Scan Unit
  | [] => some ((), [])
  | _ => none

/-- Repeats a step until it fails. The bound is the number of characters left, since each step takes at least one. -/
def many (step : Scan α) : Scan (List α) := fun cs => some (go cs.length cs)
where
  go (n : Nat) (cs : List Char) : List α × List Char :=
    match n with
    | 0 => ([], cs)
    | n + 1 =>
      match step cs with
      | none => ([], cs)
      | some (a, rest) =>
        let (more, left) := go n rest
        (a :: more, left)

end Scan

end RecordGraph.Text
