import RecordGraph.Entries
import RecordGraph.Decimal.Double

namespace RecordGraph.Toml

inductive Item
  | string (text : String)
  | integer (value : Int)
  | float (value : Decimal.Double)
  | boolean (value : Bool)
  /-- A date, a time, or both. -/
  | moment (text : String)
  | array (items : List Item)
  | inlineTable (entries : List (String × Item))
  /-- A table with a header of its own or only named in a path (`defined`), made by a dotted key or not (`dotted`). -/
  | table (defined dotted : Bool) (entries : List (String × Item))
  | tables (list : List (List (String × Item)))

/-- Changes the table at a path. Tables that are missing are made, and of repeated tables the last one is taken. `dotted`
says whether the path is written as a dotted key; the change is told whether the table was made by one. -/
def descend (dotted : Bool) (change : Bool → Entries Item → Option (Entries Item)) :
    List String → Bool → Entries Item → Option (Entries Item)
  | [], made, entries => change made entries
  | key :: path, _, entries =>
    match entries.get? key with
    | none => (descend dotted change path dotted []).map fun sub => entries.put key (.table false dotted sub)
    | some (.table defined made sub) =>
      if dotted && defined then none
      else (descend dotted change path made sub).map fun sub => entries.put key (.table defined made sub)
    | some (.tables list) =>
      match list.getLast? with
      | none => none
      | some last =>
        (descend dotted change path false last).map fun sub => entries.put key (.tables (list.dropLast ++ [sub]))
    | some _ => none

/-- Adds an entry under a dotted key, which must be new. -/
def addEntry (path : List String) (key : String) (item : Item) (entries : Entries Item) : Option (Entries Item) :=
  descend true (fun made es =>
    if made = path.isEmpty ∨ Entries.has key es then none else some (es ++ [(key, item)])) path false entries

def addTable (path : List String) (key : String) (entries : Entries Item) : Option (Entries Item) :=
  descend false (fun _ es =>
    match es.get? key with
    | none => some (es.put key (.table true false []))
    | some (.table false false sub) => some (es.put key (.table true false sub))
    | some _ => none) path false entries

def addRepeated (path : List String) (key : String) (entries : Entries Item) : Option (Entries Item) :=
  descend false (fun _ es =>
    match es.get? key with
    | none => some (es.put key (.tables [[]]))
    | some (.tables list) => some (es.put key (.tables (list ++ [[]])))
    | some _ => none) path false entries

end RecordGraph.Toml
