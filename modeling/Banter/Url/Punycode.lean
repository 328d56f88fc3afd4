/-! Punycode: labels of any characters written in ASCII. -/
namespace Banter.Url.Punycode

def digitChar (d : Nat) : Char :=
  if d < 26 then Char.ofNat (0x61 + d) else Char.ofNat (0x30 + d - 26)

def digitValue (c : Char) : Option Nat :=
  let n := c.toNat
  if 0x61 ≤ n && n ≤ 0x7a then some (n - 0x61)
  else if 0x41 ≤ n && n ≤ 0x5a then some (n - 0x41)
  else if 0x30 ≤ n && n ≤ 0x39 then some (n - 0x30 + 26)
  else none

/-- From this value on, the digit in place `k` is followed by another. -/
def threshold (k bias : Nat) : Nat :=
  if k ≤ bias then 1 else if bias + 26 ≤ k then 26 else k - bias

theorem threshold_pos (k bias : Nat) : 1 ≤ threshold k bias := by
  unfold threshold
  split
  · omega
  · split <;> omega

def settle (delta k : Nat) : Nat :=
  if h : 455 < delta then settle (delta / 35) (k + 36) else k + 36 * delta / (delta + 38)
termination_by delta
decreasing_by exact Nat.div_lt_self (by omega) (by omega)

/-- The bias after a step of `delta` with `count` characters placed. -/
def adapt (delta count : Nat) (first : Bool) : Nat :=
  let d := if first then delta / 700 else delta / 2
  settle (d + d / count) 0

def writeNumber (bias k q : Nat) : List Char :=
  let t := threshold k bias
  if h : q < t then [digitChar q]
  else digitChar (t + (q - t) % (36 - t)) :: writeNumber bias (k + 36) ((q - t) / (36 - t))
termination_by q
decreasing_by
  have ht := threshold_pos k bias
  calc (q - threshold k bias) / (36 - threshold k bias)
      ≤ q - threshold k bias := Nat.div_le_self _ _
    _ < q := by omega

structure Progress where
  written : List Char
  delta : Nat
  bias : Nat
  placed : Nat

def place (basic n : Nat) (p : Progress) (c : Nat) : Progress :=
  if c < n then { p with delta := p.delta + 1 }
  else if c = n then
    ⟨p.written ++ writeNumber p.bias 36 p.delta, 0, adapt p.delta (p.placed + 1) (p.placed == basic),
      p.placed + 1⟩
  else p

/-- Place the code points of the list, in ascending order, the last one being `previous`. -/
def placeAll (label : List Nat) (basic : Nat) : List Nat → Nat → Progress → Progress
  | [], _, p => p
  | n :: rest, previous, p =>
    let p := { p with delta := p.delta + (n - previous) * (p.placed + 1) }
    let p := label.foldl (place basic n) p
    placeAll label basic rest (n + 1) { p with delta := p.delta + 1 }

def encode (label : List Char) : List Char :=
  let points := label.map Char.toNat
  let basic := label.filter (·.toNat < 0x80)
  let others := (points.filter (0x80 ≤ ·)).eraseDups.mergeSort (· ≤ ·)
  let start := if basic.isEmpty then [] else basic ++ ['-']
  (placeAll points basic.length others 0x80 ⟨start, 0, 72, basic.length⟩).written

def readNumber (bias : Nat) : Nat → Nat → Nat → List Char → Option (Nat × List Char)
  | _, _, _, [] => none
  | k, weight, sum, c :: rest => do
    let d ← digitValue c
    let t := threshold k bias
    let sum := sum + d * weight
    if d < t then return (sum, rest)
    else readNumber bias (k + 36) (weight * (36 - t)) sum rest

/-- Insert the code points that the digits call for, from the insertion point `i` on, as far as they
can be accepted, and tell if that is to the end. -/
def insertAll (accepted? : Nat → Option Nat) :
    Nat → List Char → Nat → Nat → Nat → List Nat → List Nat × Bool
  | _, [], _, _, _, out => (out, true)
  | 0, _ :: _, _, _, _, out => (out, false)
  | fuel + 1, s, n, i, bias, out =>
    let size := out.length + 1
    let step := do
      let (delta, rest) ← readNumber bias 36 1 0 s
      let n ← accepted? (n + (i + delta) / size)
      some (delta, rest, n)
    match step with
    | none => (out, false)
    | some (delta, rest, n) =>
      let place := (i + delta) % size
      insertAll accepted? fuel rest n (place + 1) (adapt delta size (i == 0))
        (out.take place ++ n :: out.drop place)

def insertFrom (accepted? : Nat → Option Nat) (tail basic : List Char) : List Nat × Bool :=
  insertAll accepted? tail.length tail 0x80 0 72 (basic.map Char.toNat)

/-- The part before the last hyphen is taken as it is. -/
def decode? (s : List Char) : Option (List Char) :=
  let tail := (s.reverse.takeWhile (· ≠ '-')).reverse
  let basic := s.take (s.length - tail.length - 1)
  match insertFrom (fun n => if n.isValidChar then some n else none) tail basic with
  | (out, true) => some (out.map Char.ofNat)
  | (_, false) => none

/-- What is no number ends the text, and code points beyond the last become question marks. -/
def decodeLoosely (tail basic : List Char) : List Char :=
  (insertFrom (fun n => some (if n < 0x110000 then n else '?'.toNat)) tail basic).1.map Char.ofNat

end Banter.Url.Punycode
