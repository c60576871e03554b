import RecordGraph.Toml.Lexical

namespace RecordGraph.Toml

open Text Text.Scan

/-- The items of a list with commas between them, after its opening mark and up to its closing one. -/
def listed (item : Scan α) (between : Scan Unit) (trailing : Bool) (close : String) : Scan (List α) := do
  between
  if ← startsWith close then
    literal close
    return []
  let first ← item
  between
  let more ← many do
    literal ","
    between
    let next ← item
    between
    return next
  if trailing then
    let _ ← optional (literal "," *> between)
  literal close
  return first :: more

/-- A value, with at most `depth` arrays and tables inside each other. -/
def value : Nat → Scan Item
  | 0 => do
    match ← peek? with
    | some '"' | some '\'' => return .string (← anyString)
    | some '[' | some '{' => failure
    | _ => scalar
  | depth + 1 => do
    match ← peek? with
    | some '"' | some '\'' => return .string (← anyString)
    | some '[' =>
      literal "["
      return .array (← listed (value depth) wideGap true "]")
    | some '{' =>
      literal "\x7b"
      let pairs ← listed (do
        let path ← keyPath
        gap
        literal "="
        gap
        return (path, ← value depth)) gap false "\x7d"
      let entries ← (pairs.foldlM (fun es (p : List String × Item) =>
        addEntry p.1.dropLast (p.1.getLast?.getD "") p.2 es) [] : Option (Entries Item))
      return .inlineTable entries
    | _ => scalar

inductive Line
  | empty
  | header (path : List String)
  | repeatedHeader (path : List String)
  | entry (path : List String) (item : Item)

def statement : Scan Line := do
  if ← startsWith "[[" then
    literal "[["
    gap
    let path ← keyPath
    gap
    literal "]]"
    return .repeatedHeader path
  if ← startsWith "[" then
    literal "["
    gap
    let path ← keyPath
    gap
    literal "]"
    return .header path
  let path ← keyPath
  gap
  literal "="
  gap
  return .entry path (← value maxDepth)

def line : Scan Line := do
  gap
  let said ← optional statement
  gap
  comment
  return said.getD .empty

def lines : Scan (List Line) := do
  let _ ← optional (literal "\ufeff")
  let before ← many do
    let l ← line
    newline
    return l
  let last ← line
  atEnd
  return before ++ [last]

/-- A document partly read: its entries, and the path of the table that entries go to. -/
structure Document where
  entries : List (String × Item)
  current : List String

def Document.add (d : Document) : Line → Option Document
  | .empty => some d
  | .header path => (addTable path.dropLast (path.getLast?.getD "") d.entries).map (⟨·, path⟩)
  | .repeatedHeader path => (addRepeated path.dropLast (path.getLast?.getD "") d.entries).map (⟨·, path⟩)
  | .entry path item =>
    (descend false (fun _ es => addEntry path.dropLast (path.getLast?.getD "") item es) d.current false d.entries).map
      (⟨·, d.current⟩)

def ofText? (text : String) : Option (Entries Item) := do
  let (ls, _) ← lines text.toList
  return (← ls.foldlM Document.add ⟨[], []⟩).entries

end RecordGraph.Toml
