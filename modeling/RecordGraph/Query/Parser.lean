import RecordGraph.Query.Lexeme
import RecordGraph.Query.Selection

namespace RecordGraph.Query

/-- What stands before a body: a name, its parameters if there is a list of them, and an alias. -/
structure Head where
  name : String
  parameters : Option (Entries String)
  aliasName : Option String
  deriving DecidableEq, Repr

namespace Head

def ofName (name : String) : Head := ⟨name, none, none⟩

def addParameter (h : Head) (name value : String) : Head :=
  { h with parameters := some (h.parameters.getD [] ++ [(name, value)]) }

def hasParameter (h : Head) (name : String) : Bool := Entries.has name (h.parameters.getD [])

def select (h : Head) (form : Form) (children : List Selection) : Selection :=
  .mk form h.name h.aliasName (h.parameters.getD []) children

end Head

/-- A body that is open: its head and its items so far. -/
structure OpenBody where
  head : Head
  items : List Selection
  deriving Repr

inductive Stage
  | start
  | callName (head : Head)
  /-- The start of a parameter list, or a comma in it. -/
  | parameters (head : Head)
  | parameterName (head : Head) (parameter : String) (position : Position)
  | parameter (head : Head) (parameter : String)
  /-- The name of an item, without a parameter list yet. -/
  | itemName (head : Head)
  /-- A parameter list to its end. -/
  | closed (head : Head)
  | asWord (head : Head)
  | aliasName (head : Head)
  /-- The start of a body, or a comma in it. -/
  | items
  | item
  | query (root : Selection)
  deriving Repr

/-- How far the reading of a query has come. The innermost open body is the first. -/
structure Reading where
  bodies : List OpenBody
  stage : Stage
  deriving Repr

namespace Reading

def start : Reading := ⟨[], .start⟩

/-- What can follow a head: the query needs a body, an item with a parameter list too, any other item does not. -/
def wantedAfter (r : Reading) (head : Head) : Wanted :=
  if r.bodies.isEmpty then .body
  else if head.parameters.isSome then .bodyOf head.name
  else .afterField

def wanted (r : Reading) : Wanted :=
  match r.stage with
  | .start => .callName
  | .callName _ => .parametersOfCall
  | .parameters _ => .parameterOrClose
  | .parameterName .. => .colon
  | .parameter _ name => .afterValue name
  | .itemName head => r.wantedAfter head
  | .closed head => r.wantedAfter head
  | .asWord _ => .aliasName
  | .aliasName head => r.wantedAfter head
  | .items => .fieldOrClose
  | .item => .afterField
  | .query _ => .endOfQuery

def openBody (r : Reading) (head : Head) (p : Position) : Except Misread Reading :=
  if maxDepth ≤ r.bodies.length then .error ⟨.tooDeep, p⟩
  else .ok ⟨⟨head, []⟩ :: r.bodies, .items⟩

def closeBody (r : Reading) (p : Position) : Except Misread Reading :=
  match r.bodies with
  | [] => .error ⟨.expected r.wanted .closeBrace, p⟩
  | ⟨_, []⟩ :: _ => .error ⟨.emptyBody, p⟩
  | [⟨head, items⟩] => .ok ⟨[], .query (head.select .root items)⟩
  | ⟨head, items⟩ :: ⟨outer, before⟩ :: bodies =>
    .ok ⟨⟨outer, before ++ [head.select .node items]⟩ :: bodies, .item⟩

def addLeaf (r : Reading) (head : Head) : Reading :=
  match r.bodies with
  | [] => r
  | ⟨outer, before⟩ :: bodies => ⟨⟨outer, before ++ [head.select .leaf []]⟩ :: bodies, .item⟩

/-- A step after an item: a comma or the end of the body. -/
def afterItem (r : Reading) (l : Lexeme) (p : Position) : Except Misread Reading :=
  match l with
  | .token .comma => .ok { r with stage := .items }
  | .token .closeBrace => r.closeBody p
  | _ => .error ⟨.expected .afterField l.first, p⟩

/-- A step after a head: a body, or the end of an item that is a plain field. -/
def afterHead (r : Reading) (head : Head) (l : Lexeme) (p : Position) : Except Misread Reading :=
  if l = .token .openBrace then r.openBody head p
  else if r.wantedAfter head = .afterField then (r.addLeaf head).afterItem l p
  else .error ⟨.expected (r.wantedAfter head) l.first, p⟩

/-- A step after a parameter list: an alias, or what follows a head. -/
def afterList (r : Reading) (head : Head) (l : Lexeme) (p : Position) : Except Misread Reading :=
  if l = .token .asWord then .ok { r with stage := .asWord head }
  else r.afterHead head l p

def step (r : Reading) : Lexeme × Position → Except Misread Reading
  | (l, p) =>
    let unexpected := .error ⟨.expected r.wanted l.first, p⟩
    match r.stage, l with
    | .start, .token (.name n) => .ok { r with stage := .callName (.ofName n) }
    | .callName head, .token .openParen => .ok { r with stage := .parameters { head with parameters := some [] } }
    | .parameters head, .token .closeParen => .ok { r with stage := .closed head }
    | .parameters head, .token (.name n) => .ok { r with stage := .parameterName head n p }
    | .parameterName head n at_, .value v =>
      if head.hasParameter n then .error ⟨.repeatedParameter n, at_⟩
      else .ok { r with stage := .parameter (head.addParameter n v) n }
    | .parameter head _, .token .comma => .ok { r with stage := .parameters head }
    | .parameter head _, .token .closeParen => .ok { r with stage := .closed head }
    | .itemName head, l =>
      if l = .token .openParen then .ok { r with stage := .parameters { head with parameters := some [] } }
      else r.afterList head l p
    | .closed head, l => r.afterList head l p
    | .asWord head, .token (.name n) => .ok { r with stage := .aliasName { head with aliasName := some n } }
    | .aliasName head, l => r.afterHead head l p
    | .items, .token .closeBrace => r.closeBody p
    | .items, .token (.name n) => .ok { r with stage := .itemName (.ofName n) }
    | .item, l => r.afterItem l p
    | _, _ => unexpected

/-- What comes of a reading when the lexemes end. -/
def finish (r : Reading) : Ending → Except Misread Selection
  | .complete p =>
    match r.stage with
    | .query root => .ok root
    | _ => .error ⟨.expected r.wanted .endOfInput, p⟩
  | .badCharacter e => .error e
  | .badValue p e =>
    match r.stage with
    | .parameterName .. => .error e
    | _ => .error ⟨.expected r.wanted .colon, p⟩

def run (r : Reading) (ls : List (Lexeme × Position)) : Except Misread Reading := ls.foldlM step r

@[simp] theorem run_nil (r : Reading) : r.run [] = .ok r := rfl

@[simp] theorem run_cons (r : Reading) (l : Lexeme × Position) (ls : List (Lexeme × Position)) :
    r.run (l :: ls) = (r.step l).bind fun r => r.run ls := by
  simp [run, bind]

end Reading

def parse (text : String) : Except Misread Selection :=
  let lexemes := (Cursor.ofText text).lexemes
  (Reading.start.run lexemes.list).bind fun r => r.finish lexemes.ending

end RecordGraph.Query
