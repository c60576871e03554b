import RecordGraph.Store

namespace RecordGraph

/-- How many records a page has if nothing else is asked for, and at most. -/
structure PageLimits where
  defaultSize : Nat
  maxSize : Nat
  deriving DecidableEq, Repr

namespace PageLimits

def standard : PageLimits := ⟨20, 100⟩

def pageSize (l : PageLimits) (first : Option Nat) : Nat := min (first.getD l.defaultSize) l.maxSize

theorem pageSize_le (l : PageLimits) (first : Option Nat) : l.pageSize first ≤ l.maxSize := Nat.min_le_right ..

end PageLimits

/-- The number of records up to and including the first one with this id. -/
def afterCursor? (records : List Record) (cursor : String) : Option Nat :=
  (records.findIdx? fun r => r.id = cursor).map (· + 1)

/-- One page: the records after the cursor, or from the start without one. -/
def page (records : List Record) (first : Option Nat) (after : Option String) (limits : PageLimits) :
    Except Fault (List Record) := do
  let start ← match after with
    | none => pure 0
    | some cursor =>
      match afterCursor? records cursor with
      | some n => pure n
      | none => throw (.invalidParameter "after" (.noSuchRecord cursor))
  return (records.drop start).take (limits.pageSize first)

end RecordGraph
