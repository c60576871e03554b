import RecordGraph.Query.Position

namespace RecordGraph.Query

/-- A token. The word `as` is a keyword; every other word is a name. -/
inductive Token
  | asWord
  | name (word : String)
  | comma
  | colon
  | openBrace
  | closeBrace
  | openBracket
  | closeBracket
  | openParen
  | closeParen
  | endOfInput
  deriving DecidableEq, Repr

namespace Token

def text : Token → String
  | asWord => "'as'"
  | name word => s!"identifier \"{word}\""
  | comma => "','"
  | colon => "':'"
  | openBrace => "'\x7b'"
  | closeBrace => "'\x7d'"
  | openBracket => "'['"
  | closeBracket => "']'"
  | openParen => "'('"
  | closeParen => "')'"
  | endOfInput => "end of input"

def ofWord (word : String) : Token := if word = "as" then asWord else name word

def ofChar? : Char → Option Token
  | ',' => some comma
  | ':' => some colon
  | '{' => some openBrace
  | '}' => some closeBrace
  | '[' => some openBracket
  | ']' => some closeBracket
  | '(' => some openParen
  | ')' => some closeParen
  | _ => none

end Token

/-- What the grammar asks for at some place. -/
inductive Wanted
  | callName
  | parametersOfCall
  | colon
  | parameterOrClose
  | afterValue (parameter : String)
  | aliasName
  | body
  | bodyOf (name : String)
  | fieldOrClose
  | afterField
  | endOfQuery
  deriving DecidableEq, Repr

def Wanted.text : Wanted → String
  | callName => "root call name"
  | parametersOfCall => "'(' after root call name"
  | colon => "':' after parameter name"
  | parameterOrClose => "parameter name or ')'"
  | afterValue parameter => s!"',' or ')' after value of parameter \"{parameter}\""
  | aliasName => "alias after 'as'"
  | body => "'\x7b'"
  | bodyOf name => s!"'\x7b' after parameters of \"{name}\""
  | fieldOrClose => "field name or '\x7d'"
  | afterField => "',' or '\x7d' after field"
  | endOfQuery => "end of input after query"

/-- The deepest nesting of selection bodies. -/
def maxDepth : Nat := 128

inductive Complaint
  | unexpectedCharacter (c : Char)
  | unterminatedEscape
  | expected (wanted : Wanted) (got : Token)
  | repeatedParameter (name : String)
  | emptyBody
  | tooDeep
  | other (text : String)
  deriving DecidableEq, Repr

def Complaint.text : Complaint → String
  | unexpectedCharacter c => s!"Unexpected character '{c}'"
  | unterminatedEscape => "Unterminated escape at end of input"
  | expected wanted got => s!"Expected {wanted.text}, got {got.text}"
  | repeatedParameter name => s!"Duplicate parameter \"{name}\""
  | emptyBody => "Selection body must contain at least one field"
  | tooDeep => s!"Selections nested deeper than {maxDepth} levels"
  | other text => text

structure Misread where
  complaint : Complaint
  position : Position
  deriving DecidableEq, Repr

end RecordGraph.Query
