import RecordGraph.Shell.Style
import RecordGraph.Engine.Execute

namespace RecordGraph.Shell

def unlines (ls : List String) : String := String.join (ls.map (· ++ "\n"))

def indentation (level : Nat) : String := String.join (List.replicate level "  ")

/-- Some items on lines of their own between two marks, or the marks alone. -/
def block (level : Nat) (opening closing : String) (items : List String) : String :=
  if items.isEmpty then opening ++ closing
  else
    let inner := items.map fun i => indentation level ++ "  " ++ i
    opening ++ "\n" ++ ",\n".intercalate inner ++ "\n" ++ indentation level ++ closing

mutual

/-- A value over several lines. Strings are shown as they are. -/
def showValue (p : Palette) (level : Nat) : Json → String
  | .null => p.paint .dimmed "null"
  | .bool b => if b then p.paint .green "true" else p.paint .red "false"
  | .number n => p.paint .yellow n.text
  | .string s => p.paint .green ("\"" ++ s ++ "\"")
  | .array items => block level "[" "]" (showItems p (level + 1) items)
  | .object entries => block level "\x7b" "\x7d" (showEntries p (level + 1) entries)

def showItems (p : Palette) (level : Nat) : List Json → List String
  | [] => []
  | v :: vs => showValue p level v :: showItems p level vs

def showEntries (p : Palette) (level : Nat) : List (String × Json) → List String
  | [] => []
  | (k, v) :: es => (p.paint .cyan k ++ ": " ++ showValue p level v) :: showEntries p level es

end

def version : String := "0.1.0"

def banner (p : Palette) : String :=
  unlines [
    "  " ++ p.paint .boldWhite "NodeQL Interactive REPL" ++ " " ++ p.paint .dimmed version,
    "  Type " ++ p.paint .yellow ".help" ++ " for help, " ++ p.paint .yellow ".exit" ++ " to quit",
    ""]

def help (p : Palette) : String :=
  unlines [
    "",
    p.paint .boldWhite "Commands:",
    "  " ++ p.paint .yellow ".help" ++ "        Show this help",
    "  " ++ p.paint .yellow ".exit" ++ "        Exit the REPL",
    "  " ++ p.paint .yellow ".schema" ++ "      List types and their fields",
    "  " ++ p.paint .yellow ".clear" ++ "       Clear the screen",
    "",
    p.paint .boldWhite "Root calls:",
    "  " ++ p.paint .cyan (", ".intercalate Call.sortedNames),
    "",
    p.paint .boldWhite "Examples:",
    "  " ++ p.paint .green "createType(name: User) \x7b success \x7d",
    "  " ++ p.paint .green "createField(type: User, fieldName: handle, fieldType: string) \x7b success \x7d",
    "  " ++ p.paint .green "create(type: User, data: \\\x7b\"handle\": \"alice\"\\\x7d) \x7b id, handle \x7d",
    "  " ++ p.paint .green "nodes(type: User, first: 10) \x7b count, nodes \x7b handle \x7d \x7d",
    "",
    "  " ++ p.paint .dimmed "A query continues on the next line while a \x7b block is open.",
    ""]

def showField (p : Palette) (f : Field) : String :=
  let target := match f.link with
    | some l => " -> " ++ l.targetType ++ "." ++ l.targetField
    | none => ""
  "    " ++ f.name ++ ": " ++ p.paint .yellow f.kind.text ++ p.paint .dimmed target ++
    p.paint .dimmed (if f.required then " required" else "")

def showType (p : Palette) (t : RecordType) : List String :=
  ("  " ++ p.paint (if t.isNode then .boldCyan else .dimmed) t.name) :: t.fields.values.map (showField p)

def showCatalog (p : Palette) (c : Catalog) : String := unlines (c.types.values.flatMap (showType p))

/-- The outcome of a query, which took `elapsed` milliseconds. -/
def showOutcome (p : Palette) (elapsed : String) : Except Fault Json → String
  | .ok v => unlines [showValue p 0 v, p.paint .dimmed ("  (" ++ elapsed ++ "ms)")]
  | .error e => unlines [p.paint .boldRed (e.kind ++ ":") ++ " " ++ e.message]

end RecordGraph.Shell
