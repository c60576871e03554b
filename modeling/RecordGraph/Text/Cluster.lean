import RecordGraph.Text.BreakClass

namespace RecordGraph.Text

namespace BreakClass

def isControl : BreakClass → Bool
  | .carriageReturn | .lineFeed | .control => true
  | _ => false

/-- Whether a mark of this class can stand between a pictograph and the joiner after it. -/
def isExtender : BreakClass → Bool
  | .extender | .linker | .nonJoiner => true
  | _ => false

def isConjunctMark : BreakClass → Bool
  | .extender | .linker | .joiner => true
  | _ => false

def attaches : BreakClass → Bool
  | .extender | .linker | .nonJoiner | .joiner | .spacingMark => true
  | _ => false

def withinSyllable : BreakClass → BreakClass → Bool
  | .leadingJamo, .leadingJamo | .leadingJamo, .vowelJamo => true
  | .leadingJamo, .openSyllable | .leadingJamo, .closedSyllable => true
  | .openSyllable, .vowelJamo | .openSyllable, .trailingJamo => true
  | .vowelJamo, .vowelJamo | .vowelJamo, .trailingJamo => true
  | .closedSyllable, .trailingJamo | .trailingJamo, .trailingJamo => true
  | _, _ => false

end BreakClass

/-- Whether a cluster ends with a consonant and marks after it, a linker among them. -/
def endsOpenConjunct (cluster : List BreakClass) : Bool :=
  (cluster.takeWhile (·.isConjunctMark)).contains .linker &&
    (cluster.dropWhile (·.isConjunctMark)).head? == some .consonant

def endsJoinedPictograph : List BreakClass → Bool
  | .joiner :: before => (before.dropWhile (·.isExtender)).head? == some .pictograph
  | _ => false

def endsHalfFlag (cluster : List BreakClass) : Bool := (cluster.takeWhile (· == .regional)).length % 2 == 1

def continuesCluster (next : BreakClass) : List BreakClass → Bool
  | [] => false
  | last :: before =>
    if last.isControl || next.isControl then last == .carriageReturn && next == .lineFeed
    else next.attaches || last == .prepended || last.withinSyllable next ||
      match next with
      | .consonant => endsOpenConjunct (last :: before)
      | .pictograph => endsJoinedPictograph (last :: before)
      | .regional => endsHalfFlag (last :: before)
      | _ => false

/-- The clusters of a text that goes on after `cluster`. Both that and its classes are listed from the last. -/
def clustersFrom (classes : List BreakClass) (cluster : List Char) : List Char → List (List Char)
  | [] => [cluster.reverse]
  | c :: cs =>
    if continuesCluster (breakClass c) classes then clustersFrom (breakClass c :: classes) (c :: cluster) cs
    else cluster.reverse :: clustersFrom [breakClass c] [c] cs

def clusters : List Char → List (List Char)
  | [] => []
  | c :: cs => clustersFrom [breakClass c] [c] cs

theorem flatten_clustersFrom (classes : List BreakClass) (cluster cs : List Char) :
    (clustersFrom classes cluster cs).flatten = cluster.reverse ++ cs := by
  fun_induction clustersFrom classes cluster cs <;> simp_all

/-- Nothing of a text is lost when it is cut into clusters. -/
theorem flatten_clusters (cs : List Char) : (clusters cs).flatten = cs := by
  cases cs <;> simp [clusters, flatten_clustersFrom]

end RecordGraph.Text
