import Banter.Activity.Chance
import Banter.Activity.Ledger
import Banter.Text.Blank
import Banter.Text.Lower

/-!
Who is around, who was answered, and how lively the chat is. The bot itself, which goes by many
spellings of its name, does not count.
-/
namespace Banter

namespace Text

def contains (text part : List Char) : Bool :=
  part.isPrefixOf text || match text with
    | [] => false
    | _ :: rest => contains rest part

end Text

/-- Does the name contain the bot's, in any case? An empty name on either side contains nothing. -/
def isSelfName (name : Option String) (botName : String) : Bool :=
  let name := Text.given name
  !name.isEmpty && !botName.isEmpty &&
    Text.contains (Text.lower name) (Text.lower botName.toList)

namespace Activity

namespace Window

/-- Messages count for this many seconds. -/
def span {τ : Type} [OfNat τ 30] : τ := 30

def capacity : Nat := 10

variable {τ : Type} [LT τ] [DecidableLT τ] [Sub τ] [OfNat τ 30]

/-- Drop what is too old from the front, add the new time, and keep the newest of them. -/
def record (now : τ) (window : List τ) : List τ :=
  let kept := window.dropWhile (fun t => decide (t < now - span)) ++ [now]
  kept.drop (kept.length - capacity)

end Window

/-- A roster holds names without repetition, in the order of their code points. -/
def rosterOf (names : List String) : List String :=
  names.eraseDups.mergeSort fun a b => a ≤ b

/-- The state of one session, over any time scale. -/
structure Tracker (τ : Type) where
  botName : String
  roster : List String
  window : List τ
  ledger : Ledger

namespace Tracker

variable {τ : Type}

def fresh (botName : String) : Tracker τ :=
  ⟨botName, [], [], .empty⟩

/-- Is this a name to keep track of? -/
def counts (t : Tracker τ) (name : Option String) : Bool :=
  !(Text.given name).isEmpty && !isSelfName name t.botName

def recordInteraction (t : Tracker τ) (name : Option String) : Tracker τ :=
  match name with
  | some n => if t.counts name then { t with ledger := t.ledger.record n } else t
  | none => t

def forgotten (t : Tracker τ) (name : Option String) : List String :=
  match name with
  | some n => if t.counts name then t.ledger.pushedOut n else []
  | none => []

def recordActivity [LT τ] [DecidableLT τ] [Sub τ] [OfNat τ 30] (t : Tracker τ) (now : τ) :
    Tracker τ :=
  { t with window := Window.record now t.window }

/-- Take over the names that the host reports, without the bot's own. -/
def updateRoster (t : Tracker τ) (names : List (Option String)) : Tracker τ :=
  { t with roster := rosterOf ((names.filter t.counts).filterMap id) }

def chance (t : Tracker τ) : Float :=
  Activity.chance t.roster.length t.window.length

def snapshot (t : Tracker τ) : Snapshot where
  participantCount := t.roster.length
  recentMessages := t.window.length
  recentInteractors := t.ledger.names
  interactions := t.ledger.answers.map fun (name, count) => (name, (count : Int))
  activeParticipants := t.roster

def clearInteractions (t : Tracker τ) : Tracker τ :=
  { t with ledger := .empty }

def reset (t : Tracker τ) : Tracker τ :=
  fresh t.botName

end Tracker
end Activity
end Banter
