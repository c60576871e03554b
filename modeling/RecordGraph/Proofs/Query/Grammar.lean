import RecordGraph.Query.Parser

namespace RecordGraph.Query.Grammar

open Text

def Blank (s : List Char) : Prop := ∀ c ∈ s, isBlank c = true

def Sign (c : Char) (s s' : List Char) : Prop := ∃ b, Blank b ∧ s = b ++ c :: s'

/-- A word, which is as long as it can be. -/
def Word (w : String) (s s' : List Char) : Prop :=
  ∃ b cs, Blank b ∧ s = b ++ (cs ++ s') ∧ w = String.ofList cs ∧ (∃ c ∈ cs.head?, startsWord c = true) ∧
    (∀ c ∈ cs, continuesWord c = true) ∧ ∀ c ∈ s'.head?, continuesWord c = false

/-- An identifier: any word but `as`. -/
def Ident (n : String) (s s' : List Char) : Prop := n ≠ "as" ∧ Word n s s'

/-- A run of pairs of a backslash and a character, and of characters that are neither a backslash nor structural. The
characters of the run are given with whether they were escaped. -/
inductive Run : List (Char × Bool) → List Char → List Char → Prop
  | nil (s : List Char) : Run [] s s
  | escaped {cs : List (Char × Bool)} {s s' : List Char} (c : Char) (h : Run cs s s') :
    Run ((c, true) :: cs) ('\\' :: c :: s) s'
  | plain {c : Char} {cs : List (Char × Bool)} {s s' : List Char} (hb : c ≠ '\\') (hc : isStructural c = false)
    (h : Run cs s s') : Run ((c, false) :: cs) (c :: s) s'

def isLoose (p : Char × Bool) : Bool := !p.2 && isBlank p.1

/-- What a run stands for: the loose blanks at both ends do not count. -/
def decoded (cs : List (Char × Bool)) : String :=
  String.ofList ((((cs.dropWhile isLoose).reverse.dropWhile isLoose).reverse).map Prod.fst)

def Value (v : String) (s s' : List Char) : Prop := ∃ cs, Run cs s s' ∧ v = decoded cs

section Lists

variable {α : Type}

/-- What can follow an item of a list: more items, each after a comma, and maybe a comma after the last. -/
inductive More (P : α → List Char → List Char → Prop) : List α → List Char → List Char → Prop
  | nil (s : List Char) : More P [] s s
  | comma {s s' : List Char} (hc : Sign ',' s s') : More P [] s s'
  | cons {a : α} {l : List α} {s s₁ s₂ s' : List Char} (hc : Sign ',' s s₁) (ha : P a s₁ s₂) (hl : More P l s₂ s') :
    More P (a :: l) s s'

def Items (P : α → List Char → List Char → Prop) (l : List α) (s s' : List Char) : Prop :=
  ∃ a as s₁, l = a :: as ∧ P a s s₁ ∧ More P as s₁ s'

def Optional (P : α → List Char → List Char → Prop) (l : List α) (s s' : List Char) : Prop :=
  (l = [] ∧ s' = s) ∨ Items P l s s'

end Lists

def Parameter (p : String × String) (s s' : List Char) : Prop :=
  ∃ s₁ s₂, Ident p.1 s s₁ ∧ Sign ':' s₁ s₂ ∧ Value p.2 s₂ s'

/-- A parameter list in its parentheses. No name is given twice. -/
def Parameters (ps : List (String × String)) (s s' : List Char) : Prop :=
  ∃ s₁ s₂, Sign '(' s s₁ ∧ Optional Parameter ps s₁ s₂ ∧ (ps.map Prod.fst).Nodup ∧ Sign ')' s₂ s'

def Alias : Option String → List Char → List Char → Prop
  | none, s, s' => s' = s
  | some n, s, s' => ∃ s₁, Word "as" s s₁ ∧ Ident n s₁ s'

def Body (P : Selection → List Char → List Char → Prop) (items : List Selection) (s s' : List Char) : Prop :=
  ∃ s₁ s₂, Sign '{' s s₁ ∧ Items P items s₁ s₂ ∧ Sign '}' s₂ s'

def Leaf (t : Selection) (s s' : List Char) : Prop :=
  ∃ n a s₁, t = .mk .leaf n a [] [] ∧ Ident n s s₁ ∧ Alias a s₁ s'

/-- An item with a body, whose items are given. -/
def Node (P : Selection → List Char → List Char → Prop) (t : Selection) (s s' : List Char) : Prop :=
  ∃ n ps a items s₁ s₂ s₃, t = .mk .node n a ps items ∧ Ident n s s₁ ∧
    ((ps = [] ∧ s₂ = s₁) ∨ Parameters ps s₁ s₂) ∧ Alias a s₂ s₃ ∧ Body P items s₃ s'

/-- An item with at most that many bodies nested in each other. -/
def Item : Nat → Selection → List Char → List Char → Prop
  | 0 => Leaf
  | d + 1 => fun t s s' => Leaf t s s' ∨ Node (Item d) t s s'

/-- A query to the end of the text, with at most `maxDepth` bodies nested in each other. -/
def Root (t : Selection) (s : List Char) : Prop :=
  ∃ n ps a items s₁ s₂ s₃ s₄, t = .mk .root n a ps items ∧ Ident n s s₁ ∧ Parameters ps s₁ s₂ ∧ Alias a s₂ s₃ ∧
    Body (Item (maxDepth - 1)) items s₃ s₄ ∧ Blank s₄

end RecordGraph.Query.Grammar
