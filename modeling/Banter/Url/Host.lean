import Banter.Text.Utf8
import Banter.Url.Flaw
import Banter.Url.Label
import Banter.Url.Percent

/-! The host of a URL: a domain or an address. -/
namespace Banter.Url

inductive Host where
  | domain (name : List Char)
  | ipv4 (address : Nat)
  | ipv6 (groups : List Nat)
  deriving DecidableEq, Repr

/-- A number of an address: hexadecimal behind `0x`, octal behind `0`, else decimal. -/
def ipv4Number (s : List Char) : Option Nat :=
  let digits (base : Nat) (t : List Char) : Option Nat :=
    (t.mapM fun c => (Text.hexValue c).filter (· < base)).map (·.foldl (fun n d => base * n + d) 0)
  match s with
  | [] => none
  | '0' :: 'x' :: rest => digits 16 rest
  | '0' :: 'X' :: rest => digits 16 rest
  | '0' :: d :: rest => digits 8 (d :: rest)
  | _ => digits 10 s

/-- The parts of a domain, without an empty one at the end. -/
def addressParts (s : List Char) : List (List Char) :=
  let parts := s.splitOn '.'
  if parts.getLast? = some [] then parts.dropLast else parts

/-- A domain whose last part is a number is an address. -/
def endsInNumber (s : List Char) : Bool :=
  match (addressParts s).getLast? with
  | none => false
  | some last => (!last.isEmpty && last.all Char.isDigit) || (ipv4Number last).isSome

/-- The last number fills the bytes that the others leave. -/
def parseIpv4 (s : List Char) : Option Nat := do
  let parts := addressParts s
  if 4 < parts.length then none
  else
    let numbers ← parts.mapM ipv4Number
    let last ← numbers.getLast?
    let first := numbers.dropLast
    let room := Nat.pow 256 (4 - first.length)
    if first.any (255 < ·) || room ≤ last then none
    else return first.foldl (fun n byte => 256 * n + byte) 0 * room + last

def takeGroup (s : List Char) : Nat × Nat × List Char :=
  let digits := (s.take 4).takeWhile fun c => (Text.hexValue c).isSome
  (digits.length, digits.foldl (fun n c => 16 * n + (Text.hexValue c).getD 0) 0,
    s.drop digits.length)

/-- Four decimal bytes at the end of an address of the longer kind, as two groups. -/
def trailingIpv4 (s : List Char) : Option (List Nat) := do
  let parts := s.splitOn '.'
  let bytes ← parts.mapM fun part =>
    if part.isEmpty || !part.all Char.isDigit || (1 < part.length && part.head? == some '0') ||
      3 < part.length then none
    else
      let n : Nat := part.foldl (fun n c => 10 * n + (c.toNat - 48)) 0
      if n ≤ 255 then some n else none
  match bytes with
  | [a, b, c, d] => some [a * 256 + b, c * 256 + d]
  | _ => none

/-- Groups from here on. `before` holds the groups in front of the gap, once there was one; the
gap itself stands for at least one group. -/
def ipv6Groups : Nat → Option (List Nat) → List Nat → List Char → Option (List Nat)
  | 0, _, _, _ => none
  | fuel + 1, before, groups, s =>
    let count := (before.map (·.length + 1)).getD 0 + groups.length
    match s with
    | [] => finish before groups
    | ':' :: rest =>
      if before.isSome || 8 ≤ count then none else ipv6Groups fuel (some groups) [] rest
    | _ =>
      if 8 ≤ count then none
      else
        let (length, value, rest) := takeGroup s
        match rest with
        | '.' :: _ =>
          if length = 0 || 6 < count then none
          else do finish before (groups ++ (← trailingIpv4 s))
        | ':' :: more =>
          if more.isEmpty then none else ipv6Groups fuel before (groups ++ [value]) more
        | [] => finish before (groups ++ [value])
        | _ => none
where
  finish (before : Option (List Nat)) (groups : List Nat) : Option (List Nat) :=
    match before with
    | none => if groups.length = 8 then some groups else none
    | some front =>
      if front.length + groups.length ≤ 7 then
        some (front ++ List.replicate (8 - front.length - groups.length) 0 ++ groups)
      else none

def parseIpv6 (s : List Char) : Option (List Nat) :=
  match s with
  | ':' :: ':' :: rest => ipv6Groups (s.length + 1) (some []) [] rest
  | ':' :: _ => none
  | _ => ipv6Groups (s.length + 1) none [] s

def parseHost (s : List Char) : Except Flaw Host :=
  match s with
  | '[' :: inner =>
    if inner.getLast? = some ']' then
      match parseIpv6 inner.dropLast with
      | some groups => .ok (.ipv6 groups)
      | none => .error .badIpv6
    else .error .badIpv6
  | _ =>
    match Text.Utf8.decode? (percentDecode (Text.Utf8.encode s)) with
    | none => .error .badDomain
    | some decoded =>
      match domainToAscii decoded with
      | none => .error .badDomain
      | some [] => .error .emptyHost
      | some domain =>
        if endsInNumber domain then
          match parseIpv4 domain with
          | some address => .ok (.ipv4 address)
          | none => .error .badIpv4
        else .ok (.domain domain)

/-- The host of a URL of any other scheme is not interpreted, unless it is in brackets. -/
def checkOpaqueHost (s : List Char) : Except Flaw Unit :=
  match s with
  | '[' :: inner =>
    if inner.getLast? = some ']' && (parseIpv6 inner.dropLast).isSome then .ok ()
    else .error .badIpv6
  | _ =>
    if s.any fun c => [0, 9, 10, 13, 0x20, 0x23, 0x2f, 0x3a, 0x3c, 0x3e, 0x3f, 0x40, 0x5b, 0x5c,
        0x5d, 0x5e, 0x7c].contains c.toNat then .error .badDomainCharacter
    else .ok ()

def writeIpv4 (address : Nat) : List Char :=
  ['.'].intercalate ([3, 2, 1, 0].map fun i => Nat.toDigits 10 (address / Nat.pow 256 i % 256))

def zeroRuns : Nat → List Nat → List (Nat × Nat)
  | _, [] => []
  | i, g :: rest =>
    match zeroRuns (i + 1) rest with
    | [] => if g = 0 then [(i, 1)] else []
    | (start, length) :: more =>
      if g = 0 then
        if start = i + 1 then (i, length + 1) :: more else (i, 1) :: (start, length) :: more
      else (start, length) :: more

/-- The first of the longest runs of at least two zero groups is left out. -/
def omission (groups : List Nat) : Option (Nat × Nat) :=
  ((zeroRuns 0 groups).filter (1 < ·.2)).foldl (fun best run =>
    match best with
    | some b => if b.2 < run.2 then some run else some b
    | none => some run) none

def writeGroups (groups : List Nat) : List Char :=
  [':'].intercalate (groups.map (Nat.toDigits 16))

def writeIpv6 (groups : List Nat) : List Char :=
  match omission groups with
  | none => writeGroups groups
  | some (start, length) =>
    writeGroups (groups.take start) ++ ':' :: ':' :: writeGroups (groups.drop (start + length))

def Host.write : Host → List Char
  | .domain name => name
  | .ipv4 address => writeIpv4 address
  | .ipv6 groups => '[' :: writeIpv6 groups ++ [']']

end Banter.Url
