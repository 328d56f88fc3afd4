import Banter.Notice
import Banter.Reply.Reply
import Banter.Request
import Banter.Wire.ContentType
import Banter.Wire.HostName

/-! One request to the text service, and what comes of it. -/
namespace Banter.Wire

inductive Breakdown where
  | connectError
  | connectTimeout
  | readError
  | readTimeout
  | remoteProtocolError
  | tooManyRedirects
  | decodingError
  deriving DecidableEq, Repr

def Breakdown.label : Breakdown → String
  | connectError => "ConnectError"
  | connectTimeout => "ConnectTimeout"
  | readError => "ReadError"
  | readTimeout => "ReadTimeout"
  | remoteProtocolError => "RemoteProtocolError"
  | tooManyRedirects => "TooManyRedirects"
  | decodingError => "DecodingError"

inductive Answer where
  | response (status : Int) (contentType : Option String) (body : List Nat)
  | breakdown (kind : Breakdown) (message : String)
  /-- Something else goes wrong on the way. -/
  | crash (message : String)
  deriving DecidableEq, Repr

def Answer.nobody : Answer := .breakdown .connectError "no script"

structure Posting where
  method : String
  url : String
  contentType : String
  body : String
  deriving DecidableEq, Repr

def Posting.of (s : Settings) (r : Request) : Posting :=
  ⟨"POST", s.messageUrl, "application/json; charset=utf-8", r.body⟩

def departure (r : Request) : List Notice :=
  [.requesting r.shown]

/-- What goes wrong beyond the network. -/
inductive Mishap where
  | crash (message : String)
  | badHost (flaw : HostFlaw)
  /-- Halves of surrogate pairs are to be sent. -/
  | unwritableRequest (halves : Misfit)
  | badContentType (flaw : ContentTypeFlaw)
  | unreadableBody (obstacle : Charset.Obstacle)
  deriving DecidableEq, Repr

def Mishap.message : Mishap → String
  | crash message => message
  | badHost flaw => flaw.message
  | unwritableRequest halves => halves.message "utf-8" "surrogates not allowed"
  | badContentType flaw => flaw.message
  | unreadableBody obstacle => obstacle.message

/-- The content type of a body that is empty does not matter, as long as it is ASCII. -/
def decodeBody (contentType : Option String) (bytes : List Nat) : Except Mishap String := do
  let content := (contentType.getD "").toList
  if let some strangers := Misfit.beyondAscii? content then
    throw (.badContentType (.notAscii strangers))
  if bytes.isEmpty then return ""
  let charset ← (charsetOf content).mapError .badContentType
  let text ← (charset.decode bytes).mapError .unreadableBody
  return String.ofList text

def shownBody : Nat := 500

/-- The outcome of a request, or what went wrong beyond the network. -/
def arrival (r : Request) (a : Answer) : Except Mishap Outcome × List Notice :=
  match a with
  | .response status contentType bytes =>
    match decodeBody contentType bytes with
    | .ok body =>
      (.ok ⟨r.userName, some status, some body, none⟩,
        [.answered status (Reply.excerpt shownBody body)])
    | .error mishap => (.error mishap, [])
  | .breakdown kind message =>
    (.ok ⟨r.userName, none, some "", some (kind.label ++ ": " ++ message)⟩,
      [.requestFailed message])
  | .crash message => (.error (.crash message), [])

structure Exchange where
  sent : Option Posting
  result : Except Mishap Outcome
  notices : List Notice

/-- The answer counts only if the request can go out, with no halves of surrogate pairs in it. -/
def exchange (s : Settings) (r : Request) (halves : Option Misfit) (a : Answer) : Exchange :=
  match obstacle? s, halves with
  | some flaw, _ => ⟨none, .error (.badHost flaw), departure r⟩
  | none, some halves => ⟨none, .error (.unwritableRequest halves), departure r⟩
  | none, none =>
    let (result, notices) := arrival r a
    ⟨some (.of s r), result, departure r ++ notices⟩

/-- A mishap ends a request too. -/
def broken (r : Request) (mishap : Mishap) : Outcome × List Notice :=
  (⟨r.userName, none, some "", some mishap.message⟩, [.requestBroke r.userName])

/-- The outcome of a request that is answered. -/
def settled (r : Request) (a : Answer) : Outcome × List Notice :=
  match arrival r a with
  | (.ok outcome, notices) => (outcome, notices)
  | (.error mishap, notices) =>
    let (outcome, more) := broken r mishap
    (outcome, notices ++ more)

end Banter.Wire
