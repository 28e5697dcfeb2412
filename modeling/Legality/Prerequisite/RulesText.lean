import Legality.Prerequisite.Expression
import Legality.Text.Basic

/-!
Rules text as prerequisites. The text is cut into clauses at commas and semicolons outside parentheses;
each clause is recognised on its own or set aside. Letters are compared without regard to case, where the
long s counts as an s and the Kelvin sign as a k, as simple case folding has it.
-/
namespace Legality.RulesText

open Text

/-- The parenthesis depth after one more character; a stray closing parenthesis is ignored. -/
def depthAfter (depth : Nat) (c : Char) : Nat :=
  if c = '(' then depth + 1 else if c = ')' then depth - 1 else depth

def endsClause (depth : Nat) (c : Char) : Bool :=
  depth == 0 && (c == ',' || c == ';')

def consFirst (c : Char) : List (List Char) → List (List Char)
  | [] => [[c]]
  | piece :: pieces => (c :: piece) :: pieces

def pieces (depth : Nat) : List Char → List (List Char)
  | [] => [[]]
  | c :: rest =>
    if endsClause depth c then [] :: pieces depth rest
    else consFirst c (pieces (depthAfter depth c) rest)

/-- A clause is a piece without surrounding white space and without periods at its end. -/
def trimClause (piece : List Char) : List Char :=
  trimChars (dropEndWhile (· == '.') (trimChars piece))

def clauses (text : List Char) : List (List Char) :=
  ((pieces 0 text).map trimClause).filter fun clause => !clause.isEmpty

/-- Simple case folding, as far as it reaches the letters of the clause patterns. -/
def fold (c : Char) : Char :=
  if c = '\u017f' then 's' else if c = '\u212a' then 'k' else c.toLower

def isLetter (c : Char) : Bool :=
  let folded := fold c
  'a' ≤ folded && folded ≤ 'z'

def dropWord? : List Char → List Char → Option (List Char)
  | [], rest => some rest
  | _ :: _, [] => none
  | w :: word, c :: rest => if fold c = w then dropWord? word rest else none

def dropGap? : List Char → Option (List Char)
  | c :: rest => if isBlank c then some (rest.dropWhile isBlank) else none
  | [] => none

def dropWordGap? (word : String) (cs : List Char) : Option (List Char) :=
  (dropWord? word.toList cs).bind dropGap?

def dropPlus : List Char → List Char
  | '+' :: rest => rest
  | cs => cs

def shortNumber? : List Char → Option (Nat × List Char)
  | [] => none
  | c :: rest =>
    match digitValue? c with
    | none => none
    | some tens =>
      match rest with
      | [] => some (tens, [])
      | d :: more =>
        match digitValue? d with
        | some ones => some (tens * 10 + ones, more)
        | none => some (tens, rest)

/-- An ability score: a word that starts with the abbreviation of an ability, and a number with an optional
plus sign after it. -/
def abilityClause? (clause : List Char) : Option Expression := do
  let ability ← Ability.ofLetters? (clause.takeWhile isLetter)
  let rest ← dropGap? (clause.dropWhile isLetter)
  let (least, rest) ← shortNumber? rest
  if (dropPlus (rest.dropWhile isBlank)).isEmpty then some (.abilityScore ability (UInt8.ofNat least)) else none

def dropAttackBonus? (clause : List Char) : Option (List Char) :=
  match dropWordGap? "base" clause with
  | some rest => (dropWordGap? "attack" rest).bind (dropWord? "bonus".toList)
  | none => dropWord? "bab".toList clause

def attackBonusClause? (clause : List Char) : Option Expression := do
  let rest ← dropAttackBonus? clause
  let rest := (dropPlus (rest.dropWhile isBlank)).dropWhile isBlank
  let (least, rest) ← shortNumber? rest
  if rest.isEmpty then some (.attackBonus (Int32.ofNat least)) else none

/-- Whether nothing is left, or only a plus sign with optional white space in front of it. -/
def isOptionalPlus : List Char → Bool
  | [] => true
  | cs => cs.dropWhile isBlank == ['+']

def dropLevelQualifier (clause : List Char) : List Char :=
  ((dropWordGap? "minimum" clause <|> dropWordGap? "character" clause) <|>
    dropWordGap? "heroic" clause).getD clause

def levelClause? (clause : List Char) : Option Expression := do
  let rest ← dropWordGap? "level" (dropLevelQualifier clause)
  let (least, rest) ← shortNumber? rest
  if isOptionalPlus rest then some (.level (UInt32.ofNat least)) else none

def dropOrdinalEnding? (cs : List Char) : Option (List Char) :=
  ((dropWord? "st".toList cs <|> dropWord? "nd".toList cs) <|> dropWord? "rd".toList cs) <|>
    dropWord? "th".toList cs

def isOrdinalGap (c : Char) : Bool := isBlank c || c == '-'

def ordinalLevelClause? (clause : List Char) : Option Expression := do
  let (least, rest) ← shortNumber? clause
  let rest ← dropOrdinalEnding? rest
  if (rest.takeWhile isOrdinalGap).isEmpty then none
  else
    let rest ← dropWord? "level".toList (rest.dropWhile isOrdinalGap)
    if rest.isEmpty then some (.level (UInt32.ofNat least)) else none

/-- A name at the end of a clause: an article in front is left out, and a name stays on one line. -/
def trailingName? (cs : List Char) : Option String :=
  let name := (dropWordGap? "the" cs).getD cs
  if name.isEmpty || name.contains '\n' then none else some (String.ofList (trimChars name))

def trainedClause? (clause : List Char) : Option Expression := do
  let rest ← (dropWordGap? "trained" clause).bind (dropWordGap? "in")
  let name ← trailingName? rest
  some (.trained name)

def requiresClause? (clause : List Char) : Option Expression := do
  let rest ← dropWordGap? "requires" clause <|> dropWordGap? "require" clause
  let name ← trailingName? rest
  some (.named name)

def clause? (clause : List Char) : Option Expression :=
  abilityClause? clause <|> attackBonusClause? clause <|> levelClause? clause <|>
    ordinalLevelClause? clause <|> trainedClause? clause <|> requiresClause? clause

/-- What a text says: the requirements that were recognised, and the clauses that were not. -/
structure Reading where
  items : List Expression
  unparsed : List String
  deriving Repr

/-- The tree that a text stands for. Clauses that were not recognised ask for nothing. -/
def Reading.expression (reading : Reading) : Expression := .all reading.items

def read (text : String) : Reading :=
  let found := clauses text.toList
  { items := found.filterMap clause?
    unparsed := (found.filter fun clause => (clause? clause).isNone).map String.ofList }

end Legality.RulesText
