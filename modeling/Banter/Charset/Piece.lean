/-! Reading bytes piece by piece. -/
namespace Banter.Charset

/-- What the next bytes are. -/
inductive Piece where
  | text (chars : List Char) (size : Nat)
  | broken (size : Nat)
  | cutOff
  deriving DecidableEq, Repr

def Piece.single (c : Char) : Piece := .text [c] 1

/-- The characters of some bytes. Where there are none, the first byte alone is passed over. -/
def Piece.ofChars (chars : List Char) (size : Nat) : Piece :=
  if chars.isEmpty then .broken 1 else .text chars size

/-- Characters, with `none` for what is broken, and the bytes at the end that were cut off. -/
structure Reading where
  chars : List (Option Char)
  rest : List Nat
  deriving DecidableEq, Repr

namespace Reading

def after (before : List (Option Char)) (r : Reading) : Reading :=
  { r with chars := before ++ r.chars }

/-- What is cut off is broken too. -/
def marked (r : Reading) : List (Option Char) :=
  if r.rest.isEmpty then r.chars else r.chars ++ [none]

end Reading

/-- Reads on from a state. The count says how many bytes of the last piece are still to be
passed. -/
def readFrom {State : Type} (next : State → Nat → List Nat → Piece × State) :
    State → Nat → List Nat → Reading
  | _, _, [] => ⟨[], []⟩
  | s, n + 1, _ :: rest => readFrom next s n rest
  | s, 0, b :: rest =>
    match next s b rest with
    | (.text chars size, s) => (readFrom next s (size - 1) rest).after (chars.map some)
    | (.broken size, s) => (readFrom next s (size - 1) rest).after [none]
    | (.cutOff, _) => ⟨[], b :: rest⟩

def readAll (next : Nat → List Nat → Piece) (bytes : List Nat) : List (Option Char) :=
  (readFrom (fun () b rest => (next b rest, ())) () 0 bytes).marked

end Banter.Charset
