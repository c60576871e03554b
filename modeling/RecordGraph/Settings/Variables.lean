import RecordGraph.Entries
import RecordGraph.Text.Blank
import RecordGraph.Text.Letter
import RecordGraph.Text.Line

namespace RecordGraph.Variables

open Text

/-- Where the reading of lines stands: between words, after a blank, after a backslash, or inside quotes. -/
inductive Place
  | plain
  | blank
  | escape
  | weak
  | weakEscape
  | strong
  | strongEscape
  deriving DecidableEq, Repr

def Place.next (p : Place) (c : Char) : Place :=
  match p with
  | plain | blank =>
    if c = '\\' then escape
    else if c = '"' then weak
    else if c = '\'' then strong
    else if p = plain ∧ isBlank c ∧ c ≠ '\n' ∧ c ≠ '\r' then blank
    else plain
  | escape => plain
  | weak => if c = '\\' then weakEscape else if c = '"' then plain else weak
  | weakEscape => weak
  | strong => if c = '\\' then strongEscape else if c = '\'' then plain else strong
  | strongEscape => strong

/-- The characters up to a comment, which starts with a `#` right after a blank, and the place after them; there is no
place after a comment. -/
def beforeComment (p : Place) : List Char → List Char × Option Place
  | [] => ([], some p)
  | c :: cs =>
    if p = .blank ∧ c = '#' then ([], none)
    else
      let (more, last) := beforeComment (p.next c) cs
      (c :: more, last)

/-- The logical lines: a physical line that ends inside quotes goes on in the next one. A text that ends there has a last
line that cannot be read. -/
def logicalLines (before : List Char) (p : Place) : List (List Char) → List (Option (List Char))
  | [] => if before.isEmpty then [] else [none]
  | l :: ls =>
    if (trimStart (before ++ l)).head? = some '#' then some [] :: logicalLines [] .plain ls
    else
      match beforeComment p l with
      | (kept, none) => some (before ++ kept) :: logicalLines [] .plain ls
      | (_, some .plain) => some (withoutEnd (before ++ l)) :: logicalLines [] .plain ls
      | (_, some q) => logicalLines (before ++ l) q ls

inductive Mode
  | bare
  | escape (quoted : Bool)
  | weak
  | strong
  /-- After a dollar sign: the name so far. -/
  | name (quoted : Bool) (name : List Char)
  /-- After a dollar sign and a brace: the name so far. -/
  | braced (quoted : Bool) (name : List Char)
  | finished
  deriving DecidableEq, Repr

def Mode.text (quoted : Bool) : Mode := if quoted then weak else bare

def inName (c : Char) : Bool := isLetter c || isNumeral c

/-- The text of a value, with references replaced by what `look` says. -/
def valueText (look : String → List Char) (m : Mode) : List Char → Option (List Char)
  | [] =>
    match m with
    | .weak | .strong | .braced .. | .escape true | .name true _ => none
    | .name false name => some (look (String.ofList name))
    | _ => some []
  | c :: cs =>
    match m with
    | .finished =>
      if c = ' ' ∨ c = '\t' then valueText look .finished cs else if c = '#' then some [] else none
    | .escape quoted =>
      if c ∈ ['\\', '\'', '"', '$', ' '] then (valueText look (.text quoted) cs).map (c :: ·)
      else if c = 'n' then (valueText look (.text quoted) cs).map ('\n' :: ·)
      else none
    | .strong => if c = '\'' then valueText look .bare cs else (valueText look .strong cs).map (c :: ·)
    | .name quoted name =>
      if inName c then valueText look (.name quoted (name ++ [c])) cs
      else if c = '{' ∧ name = [] then valueText look (.braced quoted []) cs
      else
        let value := look (String.ofList name)
        if c = '$' then (valueText look (.name quoted []) cs).map (value ++ ·)
        else (valueText look (.text quoted) cs).map (value ++ c :: ·)
    | .braced quoted name =>
      if c = '}' then (valueText look (.text quoted) cs).map (look (String.ofList name) ++ ·)
      else valueText look (.braced quoted (name ++ [c])) cs
    | .weak =>
      if c = '$' then valueText look (.name true []) cs
      else if c = '"' then valueText look .bare cs
      else if c = '\\' then valueText look (.escape true) cs
      else (valueText look .weak cs).map (c :: ·)
    | .bare =>
      if c = '$' then valueText look (.name false []) cs
      else if c = '\'' then valueText look .strong cs
      else if c = '"' then valueText look .weak cs
      else if c = '\\' then valueText look (.escape false) cs
      else if c = ' ' ∨ c = '\t' then valueText look .finished cs
      else (valueText look .bare cs).map (c :: ·)

def key? (cs : List Char) : Option (List Char × List Char) :=
  let inKey (c : Char) : Bool := c.isAlphanum || c == '_' || c == '.'
  match cs with
  | [] => none
  | c :: _ => if c.isAlpha || c == '_' then some (cs.takeWhile inKey, trimStart (cs.dropWhile inKey)) else none

/-- The name that a line sets, and the text after its equals sign; `export` may stand before the name. -/
def setting? (cs : List Char) : Option (List Char × List Char) := do
  let (key, rest) ← key? cs
  match rest with
  | '=' :: rest => return (key, rest)
  | _ =>
    guard (key = "export".toList)
    let (key, rest) ← key? rest
    match rest with
    | '=' :: rest => return (key, rest)
    | _ => none

/-- What a logical line sets: a variable or nothing. There is no result if the line cannot be read. -/
def assignment? (env : Entries String) (l : List Char) : Option (Option (String × String)) :=
  let cs := trim l
  if cs.isEmpty ∨ cs.head? = some '#' then some none
  else do
    let (key, rest) ← setting? cs
    let rest := trimStart rest
    let look (n : String) : List Char := ((env.get? n).getD "").toList
    let value ← if rest.isEmpty ∨ rest.head? = some '#' then some [] else valueText look .bare rest
    return some (String.ofList key, String.ofList value)

/-- Whether a variable can have this value. The environment ends a value at its first NUL, so it holds none. -/
def isSettable (value : String) : Bool := !value.toList.contains (Char.ofNat 0)

/-- The variables with those that some lines set, up to the first that cannot be read. There is no result if a line sets
what cannot be set. -/
def addLines? (env : Entries String) : List (Option (List Char)) → Option (Entries String)
  | [] => some env
  | none :: _ => some env
  | some l :: ls =>
    match assignment? env l with
    | none => some env
    | some none => addLines? env ls
    | some (some (name, value)) =>
      if Entries.has name env then addLines? env ls
      else if isSettable value then addLines? (env.put name value) ls
      else none

def load? (env : Entries String) (text : String) : Option (Entries String) :=
  let cs := match text.toList with
    | '\ufeff' :: cs => cs
    | cs => cs
  addLines? env (logicalLines [] .plain (physicalLines cs))

/-- The words of a file of variables: every variable that it refers to is among them. -/
def words (text : String) : List String :=
  let rec go (word : List Char) : List Char → List String
    | [] => [String.ofList word]
    | c :: cs => if inName c || c == '_' then go (word ++ [c]) cs else String.ofList word :: go [] cs
  (go [] text.toList).filter (· ≠ "")

end RecordGraph.Variables
