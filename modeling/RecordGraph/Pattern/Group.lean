import RecordGraph.Pattern.Atom
import RecordGraph.Text.Letter

namespace RecordGraph.Pattern

open Text Text.Scan

/-- The flags. Only `u` (Unicode) and `x` (gaps do not count) change what can be read. -/
def flagNames : List Char := "imsURux".toList

/-- Whether some characters are a list of flags: each once, and a dash at most once and before a flag. -/
def areFlags (cs : List Char) : Bool :=
  cs.all (fun c => c == '-' || flagNames.contains c) && cs.eraseDups == cs && cs.getLast? != some '-'

/-- What a list of flags says of one of them: those after a dash are off. -/
def flagState (flags : List Char) (flag : Char) : Option Bool :=
  if flags.contains flag then some (!(flags.takeWhile (· != flag)).contains '-') else none

def Manner.set (m : Manner) (flags : List Char) : Manner where
  spaced := (flagState flags 'x').getD m.spaced
  unicode := (flagState flags 'u').getD m.unicode

def isGroupName : List Char → Bool
  | [] => false
  | c :: cs => startsWord c && cs.all fun c => continuesWord c || ['.', '[', ']'].contains c

/-- What an opening parenthesis begins: a group, or a change of manner that ends where it stands. -/
inductive Opening
  | group (m : Manner) (name : Option (List Char))
  | change (m : Manner)
  deriving DecidableEq, Repr

def opening (m : Manner) : Scan Opening := do
  gap m
  match ← optional (literal "?P<" <|> literal "?<") with
  | some _ =>
    let name ← takeWhile (· != '>')
    literal ">"
    if isGroupName name then return .group m (some name) else failure
  | none =>
    match ← optional (literal "?") with
    | none => return .group m none
    | some _ =>
      let flags ← takeWhile fun c => c != ':' && c != ')'
      if !areFlags flags then failure
      match ← oneOf [':', ')'], flags with
      | ':', _ => return .group (m.set flags) none
      | _, [] => failure
      | _, _ => return .change (m.set flags)

end RecordGraph.Pattern
