import RecordGraph.Json.Numeral

namespace RecordGraph.Json

open Text

inductive Lexeme
  | openArray
  | closeArray
  | openObject
  | closeObject
  | colon
  | comma
  | scalar (value : Json)
  deriving Repr

def isGap (c : Char) : Bool := c == ' ' || c == '\t' || c == '\r' || c == '\n'

def inNumber (c : Char) : Bool :=
  c.isDigit || c == '-' || c == '+' || c == '.' || c == 'e' || c == 'E'

/-- The character that an escape stands for, read after its backslash, and what follows. Two escapes of surrogates stand
for one character. -/
def escape? : List Char → Option (Char × List Char)
  | [] => none
  | 'u' :: a :: b :: c :: d :: rest =>
    (hexNumber? [a, b, c, d]).bind fun unit =>
      match ofCodePoint? unit, rest with
      | some ch, _ => some (ch, rest)
      | none, '\\' :: 'u' :: e :: f :: g :: h :: rest =>
        ((hexNumber? [e, f, g, h]).bind (ofSurrogates? unit)).map (·, rest)
      | none, _ => none
  | c :: rest => (unescape? c).map (·, rest)

theorem length_escape? {cs rest : List Char} {ch : Char} (h : escape? cs = some (ch, rest)) :
    rest.length < cs.length := by
  unfold escape? at h
  split at h
  · cases h
  · obtain ⟨unit, -, h⟩ := Option.bind_eq_some_iff.1 h
    split at h
    · cases h
      simp only [List.length_cons]
      omega
    · obtain ⟨_, -, h⟩ := Option.map_eq_some_iff.1 h
      cases h
      simp only [List.length_cons]
      omega
    · cases h
  · obtain ⟨_, -, h⟩ := Option.map_eq_some_iff.1 h
    cases h
    simp

/-- The inside of a quoted text up to its closing quote, and what follows. -/
def quoted? : List Char → Option (List Char × List Char)
  | [] => none
  | '"' :: rest => some ([], rest)
  | '\\' :: cs =>
    match h : escape? cs with
    | none => none
    | some (ch, rest) =>
      have := length_escape? h
      (quoted? rest).map fun (inside, after) => (ch :: inside, after)
  | c :: rest =>
    if c.toNat < 0x20 then none else (quoted? rest).map fun (inside, after) => (c :: inside, after)
termination_by cs => cs.length

theorem length_quoted? {cs inside rest : List Char} (h : quoted? cs = some (inside, rest)) :
    rest.length ≤ cs.length := by
  fun_induction quoted? cs generalizing inside rest <;>
    grind [length_escape?, Option.map_eq_some_iff]

def mark? : Char → Option Lexeme
  | '[' => some .openArray
  | ']' => some .closeArray
  | '{' => some .openObject
  | '}' => some .closeObject
  | ':' => some .colon
  | ',' => some .comma
  | _ => none

def word? : String → Option Json
  | "null" => some .null
  | "true" => some (.bool true)
  | "false" => some (.bool false)
  | _ => none

/-- The first lexeme of a text that starts with `c`, and what follows. -/
def lexeme? (c : Char) (rest : List Char) : Option (Lexeme × List Char) :=
  match mark? c with
  | some l => some (l, rest)
  | none =>
    if c = '"' then (quoted? rest).map fun (inside, after) => (.scalar (.string (String.ofList inside)), after)
    else if c.isAlpha then
      (word? (String.ofList (c :: rest.takeWhile Char.isAlpha))).map fun v =>
        (.scalar v, rest.dropWhile Char.isAlpha)
    else
      (Number.ofText? (c :: rest.takeWhile inNumber)).map fun n =>
        (.scalar (.number n), rest.dropWhile inNumber)

theorem length_lexeme? {c : Char} {cs rest : List Char} {l : Lexeme} (h : lexeme? c cs = some (l, rest)) :
    rest.length ≤ cs.length := by
  unfold lexeme? at h
  split at h
  · cases h
    exact Nat.le_refl _
  · split at h
    · obtain ⟨⟨_, _⟩, hq, h⟩ := Option.map_eq_some_iff.1 h
      cases h
      exact length_quoted? hq
    · split at h
      · obtain ⟨_, -, h⟩ := Option.map_eq_some_iff.1 h
        cases h
        exact (List.dropWhile_suffix Char.isAlpha).length_le
      · obtain ⟨_, -, h⟩ := Option.map_eq_some_iff.1 h
        cases h
        exact (List.dropWhile_suffix inNumber).length_le

def lexemes? : List Char → Option (List Lexeme)
  | [] => some []
  | c :: rest =>
    if isGap c then lexemes? rest
    else
      match h : lexeme? c rest with
      | none => none
      | some (l, after) =>
        have := length_lexeme? h
        (lexemes? after).map (l :: ·)
termination_by cs => cs.length

/-- A container that is open: the items so far, or the entries so far and the key of the value to come. -/
inductive Container
  | array (items : List Json)
  | object (entries : Entries Json) (key : String)
  deriving Repr

inductive Stage
  | value
  | itemOrClose
  | keyOrClose (entries : Entries Json)
  | key (entries : Entries Json)
  | colon (entries : Entries Json) (key : String)
  | separator
  | finished (value : Json)
  deriving Repr

/-- How far the reading of a value has come. The innermost container is the first. -/
structure Reading where
  containers : List Container
  stage : Stage
  deriving Repr

def maxDepth : Nat := 127

namespace Reading

def start : Reading := ⟨[], .value⟩

/-- Puts a value where it belongs; a later entry of an object replaces an earlier one of the same key. -/
def complete (containers : List Container) (v : Json) : Reading :=
  match containers with
  | [] => ⟨[], .finished v⟩
  | .array items :: outer => ⟨.array (items ++ [v]) :: outer, .separator⟩
  | .object entries key :: outer => ⟨.object (entries.put key v) key :: outer, .separator⟩

/-- A step where a value has to come; at most `limit` containers can be open. -/
def readValue? (limit : Nat) (r : Reading) : Lexeme → Option Reading
  | .scalar v => some (complete r.containers v)
  | .openArray =>
    if r.containers.length < limit then some ⟨.array [] :: r.containers, .itemOrClose⟩ else none
  | .openObject =>
    if r.containers.length < limit then some ⟨r.containers, .keyOrClose []⟩ else none
  | _ => none

def step? (limit : Nat) (r : Reading) (l : Lexeme) : Option Reading :=
  match r.stage, r.containers, l with
  | .value, _, l => r.readValue? limit l
  | .itemOrClose, .array _ :: outer, .closeArray => some (complete outer (.array []))
  | .itemOrClose, _, l => r.readValue? limit l
  | .keyOrClose entries, outer, .closeObject => some (complete outer (.object entries))
  | .keyOrClose entries, outer, .scalar (.string key) => some ⟨outer, .colon entries key⟩
  | .key entries, outer, .scalar (.string key) => some ⟨outer, .colon entries key⟩
  | .colon entries key, outer, .colon => some ⟨.object entries key :: outer, .value⟩
  | .separator, .array items :: outer, .comma => some ⟨.array items :: outer, .value⟩
  | .separator, .array items :: outer, .closeArray => some (complete outer (.array items))
  | .separator, .object entries _ :: outer, .comma => some ⟨outer, .key entries⟩
  | .separator, .object entries _ :: outer, .closeObject => some (complete outer (.object entries))
  | _, _, _ => none

end Reading

/-- The value that a text writes, if it writes exactly one and nests at most `limit` containers. -/
def ofText? (text : String) (limit : Nat := maxDepth) : Option Json := do
  let lexemes ← lexemes? text.toList
  match (← lexemes.foldlM (Reading.step? limit) Reading.start).stage with
  | .finished v => some v
  | _ => none

end RecordGraph.Json
