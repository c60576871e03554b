import RecordGraph.Call.Request
import RecordGraph.Text.Blank
import RecordGraph.Text.Bytes

namespace RecordGraph.Shell

def endsWord (c : Char) : Bool :=
  Text.isBlank c || c == '{' || c == '}' || c == '(' || c == ')' || c == ',' || c == ':'

/-- One byte after the start of the last character that ends a word, or the start of the line. -/
def wordStart (cs : List Char) : Nat :=
  (cs.foldl (fun (at_, start) c => (at_ + c.utf8Size, if endsWord c then at_ + 1 else start)) (0, 0)).2

/-- The words that are offered besides the names of the calls. -/
def otherWords : List String :=
  ["type", "id", "data", "fields", "fieldName", "fieldType", "targetType", "targetFieldName", "required", "default",
    "first", "after", "count", "nodes", "as"]

def vocabulary : List String :=
  ((Call.all.map Call.name ++ otherWords).mergeSort fun a b => a ≤ b).eraseDups

def candidates (word : List Char) : List String := vocabulary.filter fun w => word.isPrefixOf w.toList

/-- Where the word before the cursor starts, and the words that start with it. There is no result if a character would have
to be split. -/
def complete? (line : String) (cursor : Nat) : Option (Nat × List String) := do
  let before ← Text.takeBytes? cursor line.toList
  let start := wordStart before
  let word ← Text.dropBytes? start before
  return (start, candidates word)

/-- What is missing of the first longer word that starts with some characters; nothing if there are none. -/
def continuation? (word : List Char) : Option String :=
  if word.isEmpty then none
  else (vocabulary.find? fun w => word.isPrefixOf w.toList && word.length < w.length).map fun w =>
    String.ofList (w.toList.drop word.length)

/-- The hint after a line: how its last word goes on. Inside a line there is none. There is no result if a character would
have to be split. -/
def hint? (line : String) (cursor : Nat) : Option (Option String) :=
  if cursor < Text.byteSize line.toList then some none
  else (Text.dropBytes? (wordStart line.toList) line.toList).map continuation?

end RecordGraph.Shell
