import Legality.Time.Timestamp

/-!
Governance of a character: whether prerequisites are enforced, who decided so, and how it is shown. The way
it is shown never affects enforcement.
-/
namespace Legality

inductive Mode
  | normal
  | override
  | freeBuild
  deriving DecidableEq, Repr, Inhabited

namespace Mode

def all : List Mode := [normal, override, freeBuild]

def label : Mode → String
  | normal => "normal"
  | override => "override"
  | freeBuild => "freeBuild"

/-- Whether one mode may follow another. Every change leaves normal enforcement or returns to it. -/
def canBecome : Mode → Mode → Bool
  | normal, override => true
  | normal, freeBuild => true
  | override, normal => true
  | freeBuild, normal => true
  | _, _ => false

end Mode

inductive Visibility
  | banner
  | visualTheme
  | hidden
  deriving DecidableEq, Repr, Inhabited

namespace Visibility

def label : Visibility → String
  | banner => "banner"
  | visualTheme => "visualTheme"
  | hidden => "hidden"

def title : Visibility → String
  | banner => "Banner"
  | visualTheme => "VisualTheme"
  | hidden => "Hidden"

end Visibility

inductive Role
  | player
  | gameMaster
  | admin
  deriving DecidableEq, Repr, Inhabited

namespace Role

def all : List Role := [player, gameMaster, admin]

def label : Role → String
  | player => "player"
  | gameMaster => "gameMaster"
  | admin => "admin"

def isPrivileged : Role → Bool
  | player => false
  | gameMaster => true
  | admin => true

end Role

structure Actor where
  id : String
  name : String
  role : Role
  deriving DecidableEq, Repr, Inhabited

/-- The governance of one character: the mode, how it is shown, and the audit of the last change of mode. -/
structure GovernanceState where
  mode : Mode
  visibility : Visibility
  approvedBy : Option String
  reason : Option String
  changedAt : Option Instant
  deriving DecidableEq, Repr

namespace GovernanceState

def ofMode (mode : Mode) : GovernanceState := ⟨mode, .banner, none, none, none⟩

instance : Inhabited GovernanceState := ⟨ofMode .normal⟩

end GovernanceState

structure TransitionRecord where
  characterId : String
  oldMode : Mode
  newMode : Mode
  reason : String
  approvedBy : String
  timestamp : Instant
  deriving DecidableEq, Repr, Inhabited

end Legality
