import Banter.Activity.Tracker
import Banter.Draws
import Banter.Notice

/-! Admission: which messages are answered. -/
namespace Banter

inductive Verdict where
  | self
  | empty
  | echo
  | cooldown
  | inFlight
  | chance
  | accepted
  deriving DecidableEq, Repr

def Verdict.text : Verdict → String
  | self => "self"
  | empty => "empty"
  | echo => "echo"
  | cooldown => "cooldown"
  | inFlight => "in_flight"
  | chance => "chance"
  | accepted => "accepted"

/-- A verdict, with the chance that was played if it came to that. -/
structure Decision where
  verdict : Verdict
  chance : Option Float

def Decision.accepted (d : Decision) : Bool :=
  d.verdict == .accepted

structure Gate where
  cooldown : Float
  lastResponse : Option Float

structure Admission where
  decision : Decision
  gate : Gate
  tracker : Activity.Tracker Float
  draws : Draws
  notices : List Notice

namespace Gate

def defaultCooldown : Float := 10.0

def fresh (cooldown : Float) : Gate := ⟨cooldown, none⟩

def rested (g : Gate) (now : Float) : Bool :=
  match g.lastResponse with
  | none => true
  | some last => decide (g.cooldown ≤ now - last)

/-- The first reason to refuse a message that does not depend on chance. -/
def objection (g : Gate) (botName : String) (sender text : Option String) (lastSent : String)
    (inFlight : Bool) (now : Float) : Option Verdict :=
  if (Text.given sender).isEmpty || isSelfName sender botName then some .self
  else if (Text.given text).all Text.isBlank then some .empty
  else if !lastSent.isEmpty && Text.lower (Text.given text) == Text.lower lastSent.toList then
    some .echo
  else if !g.rested now then some .cooldown
  else if inFlight then some .inFlight
  else none

/-- Judge a message. Only an accepted one changes the gate and the ledger, and only one that is
refused for no other reason costs a draw. -/
def evaluate (g : Gate) (t : Activity.Tracker Float) (d : Draws) (sender text : Option String)
    (lastSent : String) (inFlight : Bool) (now : Float) : Admission :=
  match g.objection t.botName sender text lastSent inFlight now with
  | some verdict => ⟨⟨verdict, none⟩, g, t, d, []⟩
  | none =>
    let chance := t.chance
    let (x, d) := d.next
    if chance ≤ x then ⟨⟨.chance, some chance⟩, g, t, d, []⟩
    else
      ⟨⟨.accepted, some chance⟩, { g with lastResponse := some now }, t.recordInteraction sender, d,
        (t.forgotten sender).map .evicted⟩

def reset (g : Gate) : Gate :=
  { g with lastResponse := none }

end Gate
end Banter
