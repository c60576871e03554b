import RecordGraph.Entries

namespace RecordGraph.Query

/-- The shapes of a selection: the query itself, an item with a body, and a plain field. -/
inductive Form
  | root
  | node
  | leaf
  deriving DecidableEq, Repr

/-- A selection. Written queries have bodies in roots and nodes, and neither parameters nor bodies in leaves. -/
inductive Selection
  | mk (form : Form) (name : String) (aliasName : Option String) (parameters : List (String × String))
      (children : List Selection)
  deriving Repr

namespace Selection

def form : Selection → Form
  | mk form _ _ _ _ => form

def name : Selection → String
  | mk _ name _ _ _ => name

def aliasName : Selection → Option String
  | mk _ _ aliasName _ _ => aliasName

def parameters : Selection → Entries String
  | mk _ _ _ parameters _ => parameters

def children : Selection → List Selection
  | mk _ _ _ _ children => children

def leaf (name : String) : Selection := mk .leaf name none [] []

instance : Inhabited Selection := ⟨leaf ""⟩

def isRoot (s : Selection) : Bool := s.form = .root

def isLeaf (s : Selection) : Bool := s.form = .leaf

/-- The name in the result: the alias if there is one. -/
def outputName (s : Selection) : String := s.aliasName.getD s.name

def parameter (s : Selection) (name : String) : Option String := s.parameters.get? name

/-- Whether two parameter lists give the same values to the same names. -/
def sameParameters (p q : Entries String) : Bool :=
  p.length = q.length && p.all fun e => q.get? e.1 = some e.2

mutual

/-- Equality that ignores the order of parameters, and nothing else. -/
def agrees : Selection → Selection → Bool
  | mk f n a p c, mk f' n' a' p' c' =>
    f = f' && n = n' && a = a' && sameParameters p p' && agreesAll c c'

def agreesAll : List Selection → List Selection → Bool
  | [], [] => true
  | s :: ss, t :: ts => agrees s t && agreesAll ss ts
  | _, _ => false

end

end Selection

end RecordGraph.Query
