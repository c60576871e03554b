import RecordGraph.Text.Bytes
import RecordGraph.Text.Cluster
import RecordGraph.Text.Line

namespace RecordGraph.Shell

open Text

def backspace : Char := Char.ofNat 8

/-- A line that is being typed, from its last character to its first, and the sizes of what a backspace takes back. -/
structure Typed where
  text : List Char
  sizes : List Nat
  deriving DecidableEq, Repr

namespace Typed

/-- Types a cluster. Its size is kept in one byte, so it is the rest after multiples of 256. -/
def enter? (t : Typed) (cluster : List Char) : Option Typed :=
  if cluster = [backspace] then
    match t.sizes with
    | [] => some t
    | size :: sizes => (dropBytes? size t.text).map (⟨·, sizes⟩)
  else some ⟨cluster.reverse ++ t.text, byteSize cluster % 256 :: t.sizes⟩

def enterAll? (t : Typed) (clusters : List (List Char)) : Option Typed := clusters.foldlM enter? t

end Typed

/-- A line as it stands after all its characters were typed. -/
def typed? (cs : List Char) : Option (List Char) := (Typed.enterAll? ⟨[], []⟩ (clusters cs)).map (·.text.reverse)

def readLine? (cs : List Char) : Option String := (typed? (withoutEnd cs)).map String.ofList

end RecordGraph.Shell
