import RecordGraph.Shell.Style

namespace RecordGraph.Shell

/-- How the shell shows itself: its colours, and whether it shows a prompt before it reads a line. -/
structure Terminal where
  palette : Palette
  prompts : Bool
  deriving DecidableEq, Repr

namespace Terminal

def variableNames : List String := ["CLICOLOR_FORCE", "NO_COLOR", "CLICOLOR", "TERM"]

/-- Whether colours are shown: they are forced, or they are neither refused nor switched off and would be seen. -/
def showsColours (env : Entries String) (seen : Bool) : Bool :=
  (env.get? "CLICOLOR_FORCE").any (· ≠ "0") ||
    ((env.get? "NO_COLOR").isNone && (env.get? "CLICOLOR").all (· ≠ "0") && seen)

/-- Whether lines cannot be edited on a terminal of this kind; the case of ASCII letters makes no difference. -/
def isPlain (kind : String) : Bool := ["dumb", "cons25", "emacs"].contains kind.toLower

/-- The terminal of an environment, with its input from a person or not and its output to one or not. A plain terminal
gets its prompts in any case. -/
def ofEnvironment (env : Entries String) (typed seen : Bool) : Terminal where
  palette := ⟨showsColours env seen⟩
  prompts := typed || (env.get? "TERM").any isPlain

end Terminal

end RecordGraph.Shell
