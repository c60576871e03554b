import RecordGraph.Pattern.Brackets
import RecordGraph.Pattern.Group

namespace RecordGraph.Pattern

open Text Text.Scan

structure OpenGroup where
  manner : Manner
  branches : Row
  items : Row
  /-- The depth of the last item, if that can be repeated. -/
  last : Option Nat
  deriving DecidableEq, Repr

namespace OpenGroup

def start (m : Manner) : OpenGroup := ⟨m, .empty, .empty, none⟩

def add (g : OpenGroup) (depth : Nat) : OpenGroup := { g with items := g.items.add depth, last := some depth }

/-- A change of manner, which is an item but cannot be repeated. -/
def change (g : OpenGroup) (m : Manner) : OpenGroup := { g with manner := m, items := g.items.add 0, last := none }

def branch (g : OpenGroup) : OpenGroup :=
  { g with branches := g.branches.add g.items.total, items := .empty, last := none }

def repeated? (g : OpenGroup) : Option OpenGroup :=
  g.last.map fun d => { g with items := ⟨g.items.count, max g.items.depth (d + 1)⟩, last := some (d + 1) }

def depth (g : OpenGroup) : Nat := g.branch.branches.total

end OpenGroup

/-- How far a pattern is read: the innermost group, those around it, and the names of groups. -/
structure Reading where
  inner : OpenGroup
  outer : List OpenGroup
  names : List (List Char)
  deriving DecidableEq, Repr

namespace Reading

def start : Reading := ⟨.start ⟨false, true⟩, [], []⟩

def within (r : Reading) (g : OpenGroup) : Reading := { r with inner := g }

/-- The reading inside a new group, whose name must be new. -/
def enter (r : Reading) (m : Manner) : Option (List Char) → Option Reading
  | none => some ⟨.start m, r.inner :: r.outer, r.names⟩
  | some name => if r.names.contains name then none else some ⟨.start m, r.inner :: r.outer, name :: r.names⟩

/-- The reading after the innermost group, which goes on in the manner before it. -/
def leave : Reading → Option Reading
  | ⟨_, [], _⟩ => none
  | ⟨g, h :: outer, names⟩ => some ⟨h.add (g.depth + 1), outer, names⟩

/-- Reads an item, a parenthesis, a bar or a sign of repetition. A question mark after a sign of repetition belongs to
it. -/
def next (r : Reading) : Scan Reading := do
  let m := r.inner.manner
  match ← peek? with
  | some '[' => return r.within (r.inner.add (← set m))
  | some '(' =>
    literal "("
    match ← opening m with
    | .group m name => (r.enter m name : Option Reading)
    | .change m => return r.within (r.inner.change m)
  | some ')' =>
    literal ")"
    (r.leave : Option Reading)
  | some '|' =>
    literal "|"
    return r.within r.inner.branch
  | some '{' => failure
  | some c =>
    if ['?', '*', '+'].contains c then
      let _ ← oneOf [c]
      let _ ← optional (literal "?")
      (r.inner.repeated?.map r.within : Option Reading)
    else
      let a ← atom m
      if a.isSupported m.unicode then return r.within (r.inner.add 0) else failure
  | none => failure

/-- Reads the rest of a pattern; gives its depth. All groups must be closed. Each step takes a character. -/
def finish : Nat → Reading → Scan Nat
  | 0, _ => failure
  | n + 1, r => do
    gap r.inner.manner
    match ← peek? with
    | some _ => finish n (← r.next)
    | none => if r.outer.isEmpty then return r.inner.depth else failure

end Reading

def depthLimit : Nat := 250

/-- Whether some characters are a pattern that an automaton can search for. -/
def isSearchable (cs : List Char) : Bool := ((Reading.start.finish (cs.length + 1)).run' cs).any (· ≤ depthLimit)

end RecordGraph.Pattern
