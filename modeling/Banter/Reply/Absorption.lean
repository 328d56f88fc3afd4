import Banter.Activity.Snapshot
import Banter.Delivery.Queue
import Banter.Emote
import Banter.Reply.Reply
import Banter.Selection
import Banter.Text.Mention
import Banter.Text.Roleplay
import Banter.Text.Segment

/-! Turning a finished request into lines that wait to be said. -/
namespace Banter.Reply

/-- The lines of a reply that are said in the given situation. -/
def prepareLines (text : String) (s : Activity.Snapshot) (d : Draws) : List String × Draws :=
  let cleaned := Text.addressMentions (Text.stripRoleplay (some text)) s.activeParticipants
  Selection.limitParts (Text.segment (some cleaned) Text.lineLimit) s.participantCount d

def performAll {σ : Type} [Host σ] (now : Float) : List String → σ → σ × List Notice
  | [], host => (host, [])
  | line :: rest, host =>
    let (_, host, notices) := Emote.performFor now line host
    let (host, more) := performAll now rest host
    (host, notices ++ more)

/-- What absorbing an outcome changes. -/
structure Absorbed (σ : Type) where
  lines : List String
  queue : Delivery.Queue
  draws : Draws
  host : σ
  notices : List Notice

def shownBody : Nat := 200

def dropNotice (sender : String) : ReplyFault → Notice
  | .ignored _ => .ignoring sender
  | .unsuccessful status body => .unsuccessful status (excerpt shownBody body)
  | fault => .dropping sender fault.message

/-- Queue the lines of an outcome. An outcome without a usable reply, or without anything left to
say, changes nothing. -/
def absorb {σ : Type} [Host σ] (now : Float) (s : Activity.Snapshot) (o : Outcome)
    (q : Delivery.Queue) (d : Draws) (host : σ) : Except Breach (Absorbed σ) :=
  match ofOutcome o with
  | .error (.breach b) => .error b
  | .error (.fault fault) => .ok ⟨[], q, d, host, [dropNotice o.sender fault]⟩
  | .ok reply =>
    match prepareLines reply.text s d with
    | ([], _) => .ok ⟨[], q, d, host, [.emptyReply o.sender]⟩
    | (lines, d) =>
      let (host, notices) := performAll now lines host
      .ok ⟨lines, q.enqueue lines, d, host, notices ++ [.queued lines.length o.sender]⟩

end Banter.Reply
