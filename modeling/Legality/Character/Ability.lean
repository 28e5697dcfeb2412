import Legality.Text.Basic

/-!
The six abilities of a character and their scores. A modifier is derived from a score and never stored.
-/
namespace Legality

inductive Ability
  | strength
  | dexterity
  | constitution
  | intelligence
  | wisdom
  | charisma
  deriving DecidableEq, Repr, Inhabited

namespace Ability

def all : List Ability := [strength, dexterity, constitution, intelligence, wisdom, charisma]

def title : Ability → String
  | strength => "Strength"
  | dexterity => "Dexterity"
  | constitution => "Constitution"
  | intelligence => "Intelligence"
  | wisdom => "Wisdom"
  | charisma => "Charisma"

def label : Ability → String
  | strength => "strength"
  | dexterity => "dexterity"
  | constitution => "constitution"
  | intelligence => "intelligence"
  | wisdom => "wisdom"
  | charisma => "charisma"

def ofLetters? (word : List Char) : Option Ability :=
  match word.map Char.toLower with
  | 's' :: 't' :: 'r' :: _ => some strength
  | 'd' :: 'e' :: 'x' :: _ => some dexterity
  | 'c' :: 'o' :: 'n' :: _ => some constitution
  | 'i' :: 'n' :: 't' :: _ => some intelligence
  | 'w' :: 'i' :: 's' :: _ => some wisdom
  | 'c' :: 'h' :: 'a' :: _ => some charisma
  | _ => none

/-- Reads an ability off the first three letters of a trimmed text, in either case. -/
def parse? (text : String) : Option Ability := ofLetters? (Text.trimChars text.toList)

end Ability

structure Scores where
  strength : UInt8
  dexterity : UInt8
  constitution : UInt8
  intelligence : UInt8
  wisdom : UInt8
  charisma : UInt8
  deriving DecidableEq, Repr

namespace Scores

def uniform (score : UInt8) : Scores := ⟨score, score, score, score, score, score⟩

instance : Inhabited Scores := ⟨uniform 10⟩

def score (scores : Scores) : Ability → UInt8
  | .strength => scores.strength
  | .dexterity => scores.dexterity
  | .constitution => scores.constitution
  | .intelligence => scores.intelligence
  | .wisdom => scores.wisdom
  | .charisma => scores.charisma

/-- Half of what the score has above ten, rounded down. -/
def modifier (scores : Scores) (ability : Ability) : Int :=
  Int.fdiv ((scores.score ability).toNat - 10) 2

def set (scores : Scores) (ability : Ability) (score : UInt8) : Scores :=
  match ability with
  | .strength => { scores with strength := score }
  | .dexterity => { scores with dexterity := score }
  | .constitution => { scores with constitution := score }
  | .intelligence => { scores with intelligence := score }
  | .wisdom => { scores with wisdom := score }
  | .charisma => { scores with charisma := score }

end Scores

end Legality
