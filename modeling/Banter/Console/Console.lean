import Banter.ChatEvent
import Banter.Host
import Banter.Json.Display
import Banter.Notice
import Banter.Text.Newline
import Banter.Text.Utf8

/-!
A chat at a terminal. Lines of the form `name: text` are read as said by that name, and whoever spoke
not too long ago is present.
-/
namespace Banter

namespace Presence

variable {τ : Type}

/-- Names in the order in which they came, with the time of their last line. -/
abbrev Seen (τ : Type) := List (String × τ)

def see (seen : Seen τ) (name : String) (now : τ) : Seen τ :=
  Json.assign seen name now

variable [LT τ] [DecidableLT τ] [Sub τ]

def forget (timeout now : τ) (seen : Seen τ) : Seen τ :=
  seen.filter fun e => !decide (e.2 < now - timeout)

def names (seen : Seen τ) : List String :=
  seen.map Prod.fst

end Presence

structure Console (τ : Type := Float) where
  botName : String
  /-- Seconds for which a speaker counts as present. -/
  timeout : τ
  seen : Presence.Seen τ
  printed : List (τ × String)

namespace Console

variable {τ : Type}

def defaultTimeout : Float := 300.0

def fresh (botName : String) (timeout : τ) : Console τ :=
  ⟨botName, timeout, [], []⟩

/-- The name and the text around the first colon, trimmed, if there is something in both. -/
def parse? (raw : String) : Option ChatEvent :=
  let s := raw.toList
  match s.dropWhile (· ≠ ':') with
  | [] => none
  | _ :: text =>
    let name := Text.trim (s.takeWhile (· ≠ ':'))
    let text := Text.trim text
    if name.isEmpty || text.isEmpty then none
    else some ⟨String.ofList name, String.ofList text, .publicChat⟩

def read (c : Console τ) (now : τ) (raw : String) : Option ChatEvent × Console τ :=
  match parse? raw with
  | none => (none, c)
  | some e => (some e, { c with seen := Presence.see c.seen e.sender now })

def spoken (botName line : String) : String :=
  botName ++ ": " ++ line

def performance (botName name : String) (args : List (String × Json.Value)) : String :=
  "*" ++ botName ++ " performs " ++ name ++ " " ++
    String.ofList (Json.display (Json.Value.record args)) ++ "*"

def print (c : Console τ) (now : τ) (line : String) : Console τ :=
  { c with printed := c.printed ++ [(now, line)] }

def present [LT τ] [DecidableLT τ] [Sub τ] (c : Console τ) (now : τ) : Console τ × List String :=
  let seen := Presence.forget c.timeout now c.seen
  ({ c with seen := seen }, Presence.names seen)

instance : Host Console where
  sendLine now line c := (c.print now (spoken c.botName line), false)
  perform now name args c := (c.print now (performance c.botName name args), false)
  participants now c :=
    let (c, names) := c.present now
    (c, some (names.map some))

def portionSize : Nat := 8192

def portions (bytes : List Nat) : List (List Nat) :=
  (List.range ((bytes.length + portionSize - 1) / portionSize)).map fun i =>
    (bytes.drop (i * portionSize)).take portionSize

/-- The characters of portions, up to the first that is not UTF-8, and whether that is all. Bytes
are held back for a character that goes on in the next portion. -/
def takePortions : List Nat → List (List Nat) → List Char × Bool
  | held, [] => ([], held.isEmpty)
  | held, portion :: rest =>
    match Text.Utf8.decodePart? (held ++ portion) with
    | none => ([], false)
    | some (text, held) =>
      let (more, isAll) := takePortions held rest
      (text ++ more, isAll)

/-- The lines of an input, with their line ends as line feeds. Input that is not UTF-8 gives those
that have ended in the portions before. -/
def inputLines (bytes : List Nat) : List String × List Notice :=
  match takePortions [] (portions bytes) with
  | (text, true) => ((Text.lines (Text.unifyNewlines text)).map String.ofList, [])
  | (text, false) => ((Text.endedLines text).map String.ofList, [.inputFailed])

end Console
end Banter
