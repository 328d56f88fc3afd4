import Banter.Proofs.Json.Overlong
import Banter.Proofs.Reply.Absorption

/-! What breaks the reading of an outcome off: an integer that is too long, and hardly more. -/
namespace Banter

/-- An outcome breaks off what absorbs it: an integer in its body is too long, or it has no body
to show for its status. -/
def Outcome.Breaks (o : Outcome) : Prop :=
  o.failure = none ∧
    ((o.status.any successful = true ∧
        ∃ n, Json.Overlong n .item (Text.trim (o.body.getD "").toList)) ∨
      (o.status.any successful = false ∧ o.body = none))

namespace Reply

theorem ofObject_ne_breach (f : Validation.Fields) (b : Breach) :
    ofObject f ≠ .error (.breach b) := by
  unfold ofObject malformed
  split
  · split <;> simp
  · split_ifs <;> simp

theorem ofBody_eq_breach_iff {body : String} {b : Breach} :
    ofBody body = .error (.breach b) ↔
      ∃ n, b = .digits n ∧ Json.Overlong n .item (Text.trim body.toList) := by
  unfold ofBody malformed
  dsimp only
  constructor
  · intro h
    split_ifs at h with hempty
    · cases h
    · split at h
      · next count hread =>
        cases h
        exact ⟨count, rfl, Json.read_eq_digits_iff.mp hread⟩
      · cases h
      · cases h
      · exact absurd h (ofObject_ne_breach _ b)
      · cases h
      · cases h
  · rintro ⟨n, rfl, hlong⟩
    have hread := Json.read_eq_digits_iff.mpr hlong
    obtain ⟨a, c, u, -, htext, -⟩ := hlong.head
    have hne : (Text.trim body.toList).isEmpty = false := by
      rw [htext]
      cases a <;> rfl
    simp only [hne, hread]
    rfl

theorem ofOutcome_breach_iff {o : Outcome} :
    (∃ b, ofOutcome o = .error (.breach b)) ↔ o.Breaks := by
  unfold ofOutcome Outcome.Breaks
  cases hf : o.failure with
  | some message => simp
  | none =>
    cases hs : o.status.any successful with
    | true =>
      simp only [if_true, ofBody_eq_breach_iff, true_and, Bool.true_eq_false, false_and, or_false]
      exact ⟨fun ⟨_, n, _, h⟩ => ⟨n, h⟩, fun ⟨n, h⟩ => ⟨_, n, rfl, h⟩⟩
    | false => cases hb : o.body <;> simp

variable {σ : Type} [Host σ]

theorem absorb_error_iff (now : Float) (s : Activity.Snapshot) {o : Outcome} (q : Delivery.Queue)
    (d : Draws) (host : σ) :
    (∃ b, absorb now s o q d host = .error b) ↔ o.Breaks := by
  rw [← ofOutcome_breach_iff]
  constructor
  · rintro ⟨b, h⟩
    unfold absorb at h
    split at h
    · next b' hb => exact ⟨b', hb⟩
    · cases h
    · split at h <;> cases h
  · rintro ⟨b, h⟩
    exact ⟨b, by rw [absorb, h]⟩

end Reply
end Banter
