import RecordGraph.Text.Blank
import RecordGraph.Text.Quoted
import RecordGraph.Text.Scan

namespace RecordGraph.Pattern

open Text Text.Scan

/-- How a pattern is read: whether gaps are passed over, and whether its classes are those of Unicode or of ASCII. -/
structure Manner where
  spaced : Bool
  unicode : Bool
  deriving DecidableEq, Repr

inductive Atom
  | literal (c : Char)
  | byte (c : Char)
  | anyCharacter
  | edge
  /-- A place with a word on one side, or one without. -/
  | wordEdge
  | kind (negated : Bool)
  /-- The characters of a general category of Unicode, or all others. -/
  | category (letter : Char)
  deriving DecidableEq, Repr

/-- The general categories that a single letter names. -/
def categories : List Char := "CLMNPSZclmnpsz".toList

namespace Atom

/-- Whether an automaton can search for an atom. Words of Unicode end at whole characters, which the bytes beside a
place do not show; all that is not in a class of ASCII begins or ends inside characters. -/
def isSupported (unicode : Bool) : Atom → Bool
  | literal _ | edge => true
  | byte c => unicode || c.toNat < 0x80
  | anyCharacter => unicode
  | wordEdge => !unicode
  | kind negated => unicode || !negated
  | category letter => unicode && categories.contains letter

/-- Whether an atom can stand in a set, which has no places. Outside Unicode a set has ASCII characters only. -/
def inSet (unicode : Bool) : Atom → Bool
  | literal c => unicode || c.toNat < 0x80
  | edge | wordEdge => false
  | a => a.isSupported unicode

def character? : Atom → Option Char
  | literal c | byte c => some c
  | _ => none

end Atom

/-- The characters after blanks and comments. A comment goes from a hash sign to the end of its line. -/
def afterGap (inComment : Bool) : List Char → List Char
  | [] => []
  | c :: cs =>
    if inComment then afterGap (c != '\n') cs
    else if isBlank c then afterGap false cs
    else if c = '#' then afterGap true cs
    else c :: cs

def gap (m : Manner) : Scan Unit := fun cs => some ((), if m.spaced then afterGap false cs else cs)

def codePoint (m : Manner) (digits : Nat) : Scan Char := do
  let cs ← (List.replicate digits ()).mapM fun _ => do
    gap m
    satisfy fun c => (hexValue? c).isSome
  ((hexNumber? cs).bind ofCodePoint? : Option Char)

/-- What follows a backslash. A letter or digit has a meaning of its own or none; other ASCII characters but the angle
brackets stand for themselves. -/
def escaped (m : Manner) : Scan Atom := do
  match ← satisfy fun _ => true with
  | 'x' => return .byte (← codePoint m 2)
  | 'u' => return .literal (← codePoint m 4)
  | 'U' => return .literal (← codePoint m 8)
  | 'p' | 'P' =>
    gap m
    return .category (← satisfy fun _ => true)
  | 'd' | 's' | 'w' => return .kind false
  | 'D' | 'S' | 'W' => return .kind true
  | 'A' | 'z' => return .edge
  | 'b' | 'B' | '<' | '>' => return .wordEdge
  | 'a' => return .literal (Char.ofNat 7)
  | 't' => return .literal (Char.ofNat 9)
  | 'n' => return .literal (Char.ofNat 10)
  | 'v' => return .literal (Char.ofNat 11)
  | 'f' => return .literal (Char.ofNat 12)
  | 'r' => return .literal (Char.ofNat 13)
  | c => if c.toNat < 0x80 && !c.isAlphanum then return .literal c else failure

def atom (m : Manner) : Scan Atom := do
  match ← satisfy fun _ => true with
  | '\\' => escaped m
  | '.' => return .anyCharacter
  | '^' | '$' => return .edge
  | c => return .literal c

end RecordGraph.Pattern
