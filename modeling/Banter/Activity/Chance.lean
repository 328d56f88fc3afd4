import Banter.Activity.Snapshot

/-! The chance of answering the next message, in double precision. -/
namespace Banter.Activity

def baseChance : Float := 0.6

def leastChance : Float := 0.1

def mostChance : Float := 1.0

/-- More messages than this in the window make the chat busy. -/
def busyMessages : Nat := 15

/-- Beyond its limit a count scales the chance down in proportion. -/
def thin (limit count : Nat) (x : Float) : Float :=
  if limit < count then x * (Float.ofNat limit / Float.ofNat count) else x

def clampChance (x : Float) : Float :=
  let x := if x < mostChance then x else mostChance
  if leastChance < x then x else leastChance

def chance (participants messages : Nat) : Float :=
  clampChance (thin busyMessages messages (thin quietLimit participants baseChance))

end Banter.Activity
