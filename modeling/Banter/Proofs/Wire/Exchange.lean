import Banter.Proofs.Request
import Banter.Proofs.Session.Passage
import Banter.Wire.Exchange

/-! What goes over the wire, and what the other side can read from it. -/
namespace Banter

open Banter.Text (CodePoint)

/-- All counts that a request takes from a snapshot are brief. -/
structure Activity.Snapshot.Brief (s : Snapshot) : Prop where
  participants : Json.Brief s.participantCount
  interactions : ∀ name ∈ s.recentInteractors, Json.Brief (s.count name)

theorem Activity.Snapshot.Brief.build {s : Snapshot} (h : s.Brief) (sender text : String) :
    (Request.build sender text s).context.Brief where
  total := h.participants
  each p hp := by
    obtain ⟨name, hname, rfl⟩ := List.mem_map.mp hp
    exact h.interactions name hname

namespace Wire

theorem halves?_ofString (before fields : List (String × List CodePoint))
    (h : ∀ f ∈ fields, ∃ s, f.2 = CodePoint.ofString s) : Misfit.halves? before fields = none := by
  induction fields generalizing before with
  | nil => rfl
  | cons f fields ih =>
    obtain ⟨key, _⟩ := f
    obtain ⟨s, rfl⟩ := h _ List.mem_cons_self
    have hwhole : ((CodePoint.ofString s).takeWhile fun p => (Misfit.half? p).isNone) =
        CodePoint.ofString s := by
      rw [List.takeWhile_eq_self_iff]
      intro p hp
      obtain ⟨c, -, rfl⟩ := List.mem_map.mp hp
      rfl
    rw [Misfit.halves?]
    simp only [hwhole, List.drop_length, List.takeWhile_nil, List.filterMap_nil]
    exact ih _ fun g hg => h g (List.mem_cons_of_mem _ hg)

/-- The exchange for a message. Its request is built from it, and goes out unless halves of
surrogate pairs would have to be sent. -/
def ask (settings : Settings) (sender text : String) (s : Activity.Snapshot) (a : Answer) :
    Exchange :=
  exchange settings (Request.build sender text s)
    (Misfit.halves? [] (Request.textFields (CodePoint.ofString sender) (CodePoint.ofString text))) a

theorem sent_ask (settings : Settings) (sender text : String) (s : Activity.Snapshot)
    (a : Answer) : (ask settings sender text s a).sent =
      if (obstacle? settings).isNone then some (.of settings (.build sender text s)) else none := by
  have hnone : Misfit.halves? []
      (Request.textFields (CodePoint.ofString sender) (CodePoint.ofString text)) = none := by
    refine halves?_ofString [] _ fun f hf => ?_
    simp only [Request.textFields, List.mem_cons, List.not_mem_nil, or_false] at hf
    obtain rfl | rfl | rfl := hf <;> exact ⟨_, rfl⟩
  rw [ask, hnone]
  unfold exchange
  cases obstacle? settings <;> rfl

/-- Unless the address is out of reach, a request goes out, and the other side reads from its text
the request that was built. -/
theorem asked_request_read_back (settings : Settings) (sender text : String)
    {s : Activity.Snapshot} (hs : s.Brief) (a : Answer) :
    ((obstacle? settings).isSome ∧ (ask settings sender text s a).sent = none) ∨
      ∃ posting v, (ask settings sender text s a).sent = some posting ∧
        Json.read posting.body.toList = .ok v ∧
        Request.ofJson v = .ok (.build sender text s) := by
  rw [sent_ask]
  cases obstacle? settings with
  | some flaw => exact .inl ⟨rfl, rfl⟩
  | none =>
    have hread := Request.read_body (hs.build sender text)
    have hback := Request.ofJson_toJson (.build sender text s)
    exact .inr ⟨.of settings (.build sender text s), _, rfl, hread, hback⟩

/-- A channel with names and numbers that are awkward to write. -/
def awkward : Activity.Snapshot where
  participantCount := -18446744073709551616
  recentMessages := 0
  recentInteractors := ["O\x22Neil\\", "\n\t\x00\x1f", "𝕏 € \x7f", "O\x22Neil\\"]
  interactions := [("O\x22Neil\\", 7), ("𝕏 € \x7f", -40)]
  activeParticipants := []

theorem asked_awkward : awkward.Brief ∧ ∃ posting v,
    (ask .nearby "𝕏 € \x7f" "\\u0041 \x22" awkward .nobody).sent = some posting ∧
      Json.read posting.body.toList = .ok v ∧
      Request.ofJson v = .ok (.build "𝕏 € \x7f" "\\u0041 \x22" awkward) := by
  have hbrief : awkward.Brief := ⟨by decide, by decide⟩
  obtain ⟨hblocked, -⟩ | hsent := asked_request_read_back .nearby "𝕏 € \x7f" "\\u0041 \x22" hbrief
    .nobody
  · exact absurd hblocked (by decide)
  · exact ⟨hbrief, hsent⟩

end Wire
end Banter
