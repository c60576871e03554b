import RecordGraph.Query.Cursor

namespace RecordGraph.Query

inductive Lexeme
  | token (token : Token)
  | value (text : String)
  deriving DecidableEq, Repr

namespace Lexeme

def first : Lexeme → Token
  | token t => t
  | value _ => .colon

end Lexeme

/-- How the lexemes of a text end: at its end, at a character that starts no token, or at a colon whose value breaks
off after a backslash. -/
inductive Ending
  | complete (position : Position)
  | badCharacter (misread : Misread)
  | badValue (colon : Position) (misread : Misread)
  deriving DecidableEq, Repr

structure Lexemes where
  list : List (Lexeme × Position)
  ending : Ending
  deriving DecidableEq, Repr

def Lexemes.cons (l : Lexeme × Position) (ls : Lexemes) : Lexemes := ⟨l :: ls.list, ls.ending⟩

def Cursor.lexemes (c : Cursor) : Lexemes :=
  match h : c.nextToken with
  | (.error e, _) => ⟨[], .badCharacter e⟩
  | (.ok (token, p), d) =>
    if he : token = .endOfInput then ⟨[], .complete p⟩
    else
      have := remaining_nextToken h he
      if token = .colon then
        match hv : d.readValue with
        | (.error e, _) => ⟨[], .badValue p e⟩
        | (.ok value, e) =>
          have : e.remaining ≤ d.remaining := by simpa [hv] using remaining_readValue_le d
          e.lexemes.cons (.value value, p)
      else d.lexemes.cons (.token token, p)
termination_by c.remaining

end RecordGraph.Query
