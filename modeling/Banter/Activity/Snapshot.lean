/-! The social situation at one moment. -/
namespace Banter.Activity

/-- A channel with more participants than this is busy. -/
def quietLimit : Nat := 5

structure Snapshot where
  participantCount : Int
  recentMessages : Int
  recentInteractors : List String
  interactions : List (String × Int)
  activeParticipants : List String
  deriving DecidableEq, Repr

namespace Snapshot

def busy (s : Snapshot) : Bool :=
  (quietLimit : Int) < s.participantCount

/-- The interactions counted for a name, none if it has no entry. -/
def count (s : Snapshot) (name : String) : Int :=
  (s.interactions.lookup name).getD 0

end Snapshot
end Banter.Activity
