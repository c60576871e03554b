namespace RecordGraph.Text

/-- The lines of a text, each with its line feed; the last one may lack it. -/
def physicalLines : List Char → List (List Char)
  | [] => []
  | '\n' :: cs => ['\n'] :: physicalLines cs
  | c :: cs =>
    match physicalLines cs with
    | [] => [[c]]
    | l :: ls => (c :: l) :: ls

/-- A line without its line feed, and without a carriage return in front of that. -/
def withoutEnd (cs : List Char) : List Char :=
  match cs.reverse with
  | '\n' :: '\r' :: rest => rest.reverse
  | '\n' :: rest => rest.reverse
  | _ => cs

theorem flatten_physicalLines (cs : List Char) : (physicalLines cs).flatten = cs := by
  fun_induction physicalLines cs <;> simp_all

end RecordGraph.Text
