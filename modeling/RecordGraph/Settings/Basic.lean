import RecordGraph.Page
import RecordGraph.Settings.Variables
import RecordGraph.Toml.Reader

namespace RecordGraph

structure Settings where
  logFilter : String
  defaultPageSize : Nat
  maxPageSize : Nat
  historyFile : Option String
  deriving DecidableEq, Repr

inductive SettingsFault
  | unsettableVariable
  | badDocument
  | zeroPageSize
  | defaultAboveMax (default max : Nat)
  deriving DecidableEq, Repr

/-- The message of a fault in the settings; a file that cannot be used has none. -/
def SettingsFault.message : SettingsFault → String
  | unsettableVariable => ""
  | badDocument => ""
  | zeroPageSize => "Page sizes must be greater than zero"
  | defaultAboveMax default max =>
    s!"default_page_size ({default}) is larger than max_page_size ({max})"

namespace Settings

def standard : Settings :=
  ⟨"nodeql=info", PageLimits.standard.defaultSize, PageLimits.standard.maxSize, none⟩

def limits (s : Settings) : PageLimits := ⟨s.defaultPageSize, s.maxPageSize⟩

def stringOr (d : Entries Toml.Item) (key : String) (default : Option String) :
    Except SettingsFault (Option String) :=
  match d.get? key with
  | none => .ok default
  | some (.string s) => .ok (some s)
  | some _ => .error .badDocument

def naturalOr (d : Entries Toml.Item) (key : String) (default : Nat) : Except SettingsFault Nat :=
  match d.get? key with
  | none => .ok default
  | some (.integer i) => if 0 ≤ i then .ok i.toNat else .error .badDocument
  | some _ => .error .badDocument

/-- The settings of a document. Other keys are ignored. -/
def ofToml (text : String) : Except SettingsFault Settings :=
  match Toml.ofText? text with
  | none => .error .badDocument
  | some d => do
    let logFilter ← stringOr d "log_filter" standard.logFilter
    let defaultPageSize ← naturalOr d "default_page_size" standard.defaultPageSize
    let maxPageSize ← naturalOr d "max_page_size" standard.maxPageSize
    let historyFile ← stringOr d "history_file" standard.historyFile
    return ⟨logFilter.getD "", defaultPageSize, maxPageSize, historyFile⟩

def nonempty (v : Option String) : Option String := v.filter (· ≠ "")

def variableNames : List String :=
  ["NODEQL_LOG", "NODEQL_DEFAULT_PAGE_SIZE", "NODEQL_MAX_PAGE_SIZE", "NODEQL_HISTORY_FILE"]

/-- The settings with those that environment variables override. Texts that are empty and sizes that are no counts
override nothing. -/
def override (s : Settings) (env : Entries String) : Settings where
  logFilter := (nonempty (env.get? "NODEQL_LOG")).getD s.logFilter
  defaultPageSize := ((env.get? "NODEQL_DEFAULT_PAGE_SIZE").bind Decimal.count?).getD s.defaultPageSize
  maxPageSize := ((env.get? "NODEQL_MAX_PAGE_SIZE").bind Decimal.count?).getD s.maxPageSize
  historyFile := (nonempty (env.get? "NODEQL_HISTORY_FILE")).or s.historyFile

/-- Settings are usable if a page has records, and by default no more than at most. -/
def check (s : Settings) : Except SettingsFault Unit := do
  if s.defaultPageSize = 0 ∨ s.maxPageSize = 0 then throw .zeroPageSize
  if s.maxPageSize < s.defaultPageSize then throw (.defaultAboveMax s.defaultPageSize s.maxPageSize)

def documentName : String := "nodeql.toml"

def variablesName : String := ".env"

/-- The environment with the variables of a file, which may be missing. -/
def environment (vars : Option String) (env : Entries String) : Except SettingsFault (Entries String) :=
  match vars with
  | none => .ok env
  | some text =>
    match Variables.load? env text with
    | some env => .ok env
    | none => .error .unsettableVariable

def ofEnvironment (document : Option String) (env : Entries String) : Except SettingsFault Settings := do
  let s ← match document with
    | some text => ofToml text
    | none => pure standard
  let s := s.override env
  s.check
  return s

/-- The settings of a directory with a document and a file of variables, either of which may be missing. -/
def load (document vars : Option String) (env : Entries String) : Except SettingsFault Settings := do
  ofEnvironment document (← environment vars env)

end Settings

end RecordGraph
