import RecordGraph.Entries

namespace RecordGraph.Shell

inductive Style
  | red
  | green
  | yellow
  | cyan
  | grey
  | dimmed
  | boldRed
  | boldCyan
  | boldWhite
  deriving DecidableEq, Repr

def Style.codes : Style → String
  | red => "31"
  | green => "32"
  | yellow => "33"
  | cyan => "36"
  | grey => "90"
  | dimmed => "2"
  | boldRed => "1;31"
  | boldCyan => "1;36"
  | boldWhite => "1;37"

def Style.start (s : Style) : String := "\x1b[" ++ s.codes ++ "m"

def reset : String := "\x1b[0m"

structure Palette where
  coloured : Bool
  deriving DecidableEq, Repr

/-- A text with `mark` after each piece that turns styles off. -/
def afterResets (mark : List Char) : List Char → List Char
  | '\x1b' :: '[' :: '0' :: 'm' :: cs => '\x1b' :: '[' :: '0' :: 'm' :: (mark ++ afterResets mark cs)
  | c :: cs => c :: afterResets mark cs
  | [] => []

/-- A text in a style. Where the text itself turns styles off, the style is turned on again. -/
def Palette.paint (p : Palette) (s : Style) (text : String) : String :=
  if p.coloured then s.start ++ String.ofList (afterResets s.start.toList text.toList) ++ reset
  else text

theorem paint_plain (s : Style) (text : String) : (Palette.mk false).paint s text = text := rfl

end RecordGraph.Shell
