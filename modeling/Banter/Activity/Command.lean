import Banter.Activity.Tracker

/-! Trackers as machines: what can be done to one, step by step. -/
namespace Banter.Activity

inductive Command (τ : Type) where
  | interaction (name : Option String)
  | activity (now : τ)
  | roster (names : List (Option String))
  | clear
  | reset

namespace Tracker

variable {τ : Type} [LT τ] [DecidableLT τ] [Sub τ] [OfNat τ 30]

def step (t : Tracker τ) : Command τ → Tracker τ
  | .interaction name => t.recordInteraction name
  | .activity now => t.recordActivity now
  | .roster names => t.updateRoster names
  | .clear => t.clearInteractions
  | .reset => t.reset

def run (t : Tracker τ) (commands : List (Command τ)) : Tracker τ :=
  commands.foldl step t

end Tracker
end Banter.Activity
