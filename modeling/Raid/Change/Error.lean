/-!
Why a change could not be applied or reverted.
-/

namespace Raid

def badStateMessage : String :=
  "One or more changes could not be reverted; the target system may be in a bad state"

inductive ChangeError where
  | missingName
  | missingDescription (name : String)
  | missingApply (name : String)
  | missingRevert (name : String)
  /-- An earlier failure left the change unusable. -/
  | inert (name reason : String)
  | applyFailed (name reason : String)
  | revertFailed (name reason : String)
  deriving Repr, DecidableEq

namespace ChangeError

def message : ChangeError → String
  | missingName => "change has no name"
  | missingDescription name => "change " ++ name ++ " has no description"
  | missingApply name => "change " ++ name ++ " has no apply function"
  | missingRevert name => "change " ++ name ++ " has no revert function"
  | inert name reason =>
    "change " ++ name ++ " is inert after an unrecoverable error: " ++ reason
  | applyFailed name reason => "failed to apply change " ++ name ++ ": " ++ reason
  | revertFailed name reason => "failed to revert change " ++ name ++ ": " ++ reason

/-- Whether the error leaves the target in an unknown state. -/
def isBadState : ChangeError → Bool
  | inert .. | applyFailed .. | revertFailed .. => true
  | _ => false

end ChangeError

end Raid
