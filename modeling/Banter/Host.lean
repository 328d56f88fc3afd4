import Banter.Json.Value

/-! The chat that a responder takes part in. -/
namespace Banter

/-- What a responder asks of a chat whose state is `σ`, at a given time. Each call may fail. -/
class Host (σ : Type) where
  /-- Say a line. The flag tells whether it failed. -/
  sendLine : Float → String → σ → σ × Bool
  perform : Float → String → List (String × Json.Value) → σ → σ × Bool
  /-- The names present, if they can be told. -/
  participants : Float → σ → σ × Option (List (Option String))

/-- Where there is no chat, everything is done by doing nothing. -/
instance {σ : Type} [Host σ] : Host (Option σ) where
  sendLine now line
    | some h => let (h, failed) := Host.sendLine now line h; (some h, failed)
    | none => (none, false)
  perform now name args
    | some h => let (h, failed) := Host.perform now name args h; (some h, failed)
    | none => (none, false)
  participants now
    | some h => let (h, names) := Host.participants now h; (some h, names)
    | none => (none, some [])

end Banter
