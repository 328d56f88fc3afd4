/-! A mention of someone present, an at sign and the name, becomes the name and a colon. -/
namespace Banter.Text

/-- Replace every occurrence of `old`, from the left and without overlap. The count says how many
characters of the last occurrence are still to be passed. -/
def replaceFrom (old new : List Char) : Nat → List Char → List Char
  | _, [] => []
  | n + 1, _ :: rest => replaceFrom old new n rest
  | 0, c :: rest =>
    if old.isPrefixOf (c :: rest) then new ++ replaceFrom old new (old.length - 1) rest
    else c :: replaceFrom old new 0 rest

def addressMention (name s : List Char) : List Char :=
  replaceFrom ('@' :: name) (name ++ [':']) 0 s

/-- Replace the mentions of one name after the other. The empty name is passed over. -/
def addressInOrder : List (List Char) → List Char → List Char
  | [], s => s
  | name :: rest, s => addressInOrder rest (if name.isEmpty then s else addressMention name s)

/-- Each name once, longer names first, so that a name never spoils a longer one it begins. -/
def mentionOrder (names : List String) : List String :=
  names.eraseDups.mergeSort fun a b => b.length ≤ a.length

def addressMentions (text : String) (names : List String) : String :=
  String.ofList (addressInOrder ((mentionOrder names).map String.toList) text.toList)

end Banter.Text
