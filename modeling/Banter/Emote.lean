import Banter.Host
import Banter.Notice
import Banter.Text.Alphanumeric
import Banter.Text.Blank
import Banter.Text.Case.Lowercase

/-! Keywords in a line that call for an emote. -/
namespace Banter.Emote

/-- One of the keywords, as a word of its own, calls for the emote. -/
structure Pattern where
  keywords : List String
  emote : String

/-- The patterns in the order in which they are tried. -/
def patterns : List Pattern :=
  [⟨["lol", "haha", "lmao", "rofl"], "laugh"⟩,
   ⟨["wave", "hello"], "wave"⟩,
   ⟨["dance", "dancing"], "dance"⟩,
   ⟨["cry", "sad"], "cry"⟩,
   ⟨["angry", "furious"], "angry"⟩]

/-- Does a character spell a lowercase letter, in any case? The long s and the dotless i count as
s and i. -/
def spells (letter c : Char) : Bool :=
  (Text.lowerChar c).head? == some letter ||
    (letter == 's' && c.toNat == 0x17f) || (letter == 'i' && c.toNat == 0x131)

def afterKeyword : List Char → List Char → Option (List Char)
  | [], s => some s
  | _ :: _, [] => none
  | letter :: word, c :: s => if spells letter c then afterKeyword word s else none

def startsWithWordChar (s : List Char) : Bool :=
  match s with
  | [] => false
  | c :: _ => Text.isWordChar c

/-- Does one of the keywords stand here, with no word character behind it? -/
def standsHere (keywords : List (List Char)) (s : List Char) : Bool :=
  keywords.any fun word => (afterKeyword word s).any fun rest => !startsWithWordChar rest

/-- Does one of the keywords stand anywhere, with a word character on neither side? The flag tells
whether a word character came before. -/
def occurs (keywords : List (List Char)) : Bool → List Char → Bool
  | _, [] => false
  | inWord, c :: rest =>
    (!inWord && standsHere keywords (c :: rest)) || occurs keywords (Text.isWordChar c) rest

/-- The emote of the first pattern that a line matches. -/
def detect (line : Option String) : Option String :=
  (patterns.find? fun p => occurs (p.keywords.map String.toList) false (Text.given line)).map
    Pattern.emote

def interaction : String := "emote"

/-- Ask the host for the emote that a line calls for. A failure is only noted. -/
def performFor {σ : Type} [Host σ] (now : Float) (line : String) (host : σ) :
    Option String × σ × List Notice :=
  match detect (some line) with
  | none => (none, host, [])
  | some emote =>
    let (host, failed) := Host.perform now interaction [(interaction, Json.Value.text emote)] host
    (some emote, host, .emoteSpotted emote :: if failed then [.emoteFailed emote] else [])

end Banter.Emote
