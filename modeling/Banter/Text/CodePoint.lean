/-! Texts as other programs send them may hold halves of surrogate pairs. -/
namespace Banter.Text

/-- A character, or half of a surrogate pair with nothing to pair with. -/
inductive CodePoint where
  | scalar (c : Char)
  | surrogate (n : Nat)
  deriving DecidableEq, Repr

namespace CodePoint

/-- A character takes part as it is, a lone half as the replacement character. -/
def toChar : CodePoint → Char
  | scalar c => c
  | surrogate _ => Char.ofNat 0xfffd

def isHigh (n : Nat) : Bool := 0xd800 ≤ n && n < 0xdc00

def isLow (n : Nat) : Bool := 0xdc00 ≤ n && n < 0xe000

def joined (high low : Nat) : Char :=
  Char.ofNat (0x10000 + (high - 0xd800) * 0x400 + (low - 0xdc00))

def ofUnit (n : Nat) : CodePoint :=
  if isHigh n || isLow n then surrogate n else scalar (Char.ofNat n)

/-- Neighbouring halves, high before low, make one character. -/
def joinHalves : List CodePoint → List CodePoint
  | surrogate high :: surrogate low :: rest =>
    if isHigh high && isLow low then scalar (joined high low) :: joinHalves rest
    else surrogate high :: joinHalves (surrogate low :: rest)
  | p :: rest => p :: joinHalves rest
  | [] => []

def ofString (s : String) : List CodePoint :=
  s.toList.map scalar

def toString (s : List CodePoint) : String :=
  String.ofList (s.map toChar)

def chars? (s : List CodePoint) : Option (List Char) :=
  s.mapM fun
    | scalar c => some c
    | surrogate _ => none

end CodePoint
end Banter.Text
