import Banter.Proofs.Reply.Wholeness
import Banter.Proofs.Session.Company
import Banter.Proofs.Session.Conservation
import Banter.Proofs.Session.Waiting
import Banter.Proofs.Text.Roleplay

/-!
How much of a reply is said, and whom it addresses, is up to those present when it is absorbed. A
tick asks for them once, before it absorbs what waits.
-/
namespace Banter

namespace Reply

/-- The lines of a reply: cleaned, addressed to those of a roster, and split. -/
def linesFor (roster : List String) (text : String) : List String :=
  Text.segment (some (Text.addressMentions (Text.stripRoleplay (some text)) roster)) 80

theorem prepareLines_eq (text : String) (s : Activity.Snapshot) (d : Draws) :
    prepareLines text s d =
      Selection.limitParts (linesFor s.activeParticipants text) s.participantCount d := rfl

/-- What comes of an outcome where these are present, with the draws before it and after it. -/
structure Yields (roster : List String) (count : Int) (o : Outcome) (d : Draws)
    (lines : List String) (after : Draws) : Prop where
  dropped : ∀ stop, ofOutcome o = .error stop → lines = [] ∧ after = d
  limited : ∀ reply, ofOutcome o = .ok reply →
    (lines, after) = Selection.limitParts (linesFor roster reply.text) count d

theorem yields_of_error (roster : List String) (count : Int) {o : Outcome} {stop : Stop} (d : Draws)
    (h : ofOutcome o = .error stop) : Yields roster count o d [] d where
  dropped _ _ := ⟨rfl, rfl⟩
  limited reply hreply := by
    rw [h] at hreply
    cases hreply

namespace Yields

variable {roster : List String} {count : Int} {o : Outcome} {d after : Draws}
  {lines : List String}

theorem of_crowd (h : Yields roster count o d lines after)
    (hcrowd : (Activity.quietLimit : Int) < count) :
    lines.length ≤ 1 ∧ after = d ∧
      ∀ reply, ofOutcome o = .ok reply → lines = (linesFor roster reply.text).take 1 := by
  cases ho : ofOutcome o with
  | error stop =>
    obtain ⟨hlines, hafter⟩ := h.dropped stop ho
    refine ⟨?_, hafter, fun reply hreply => ?_⟩
    · rw [hlines]
      exact Nat.zero_le 1
    · cases hreply
  | ok reply =>
    have hlimited := h.limited reply ho
    rw [Selection.limitParts_busy _ _ hcrowd] at hlimited
    obtain ⟨hlines, hafter⟩ := Prod.mk.inj hlimited
    refine ⟨?_, hafter, fun other hother => ?_⟩
    · rw [hlines]
      exact List.length_take_le 1 _
    · obtain rfl : reply = other := Except.ok.inj hother
      exact hlines

theorem of_visible (h : Yields roster count o d lines after) {reply : Reply} {left : List Char}
    (ho : ofOutcome o = .ok reply) (hleft : Text.Outside reply.text.toList left)
    (hvisible : Text.Visible left) : 1 ≤ lines.length ∧ lines.length ≤ 3 := by
  have hlines : lines = (Selection.limitParts (linesFor roster reply.text) count d).1 :=
    congrArg Prod.fst (h.limited reply ho)
  have hprepared := prepareLines_eq reply.text ⟨count, 0, [], [], roster⟩ d
  rw [Text.outside_iff.mp hleft] at hvisible
  rw [hlines]
  constructor
  · rw [← hprepared]
    exact List.length_pos_iff.mpr (prepareLines_ne_nil _ d hvisible)
  · exact Selection.length_limitParts_le _ _ _

end Yields

theorem absorb_yields {σ : Type} [Host σ] {now : Float} {s : Activity.Snapshot} {o : Outcome}
    {q : Delivery.Queue} {d : Draws} {host : σ} {a : Absorbed σ}
    (h : absorb now s o q d host = .ok a) :
    Yields s.activeParticipants s.participantCount o d a.lines a.draws := by
  unfold absorb at h
  split at h
  · cases h
  · next fault ho =>
    cases h
    exact yields_of_error _ _ d ho
  · next reply ho =>
    have hsame : ∀ lines after, prepareLines reply.text s d = (lines, after) →
        Yields s.activeParticipants s.participantCount o d lines after := by
      intro lines after hprepared
      refine ⟨fun stop hstop => ?_, fun other hother => ?_⟩
      · rw [ho] at hstop
        cases hstop
      · rw [ho] at hother
        obtain rfl : reply = other := Except.ok.inj hother
        rw [← hprepared, prepareLines_eq]
    split at h
    · next after hp =>
      have hnone : prepareLines reply.text s d = ([], d) :=
        Selection.limitParts_of_nil (congrArg Prod.fst hp)
      cases h
      exact hsame [] d hnone
    · next hp =>
      cases h
      exact hsame _ _ hp

theorem absorb_error_yields {σ : Type} [Host σ] {now : Float} {s : Activity.Snapshot} {o : Outcome}
    {q : Delivery.Queue} {d : Draws} {host : σ} {b : Breach}
    (h : absorb now s o q d host = .error b) :
    Yields s.activeParticipants s.participantCount o d [] d := by
  unfold absorb at h
  split at h
  · next ho => exact yields_of_error _ _ d ho
  · cases h
  · split at h <;> cases h

end Reply

namespace Session

variable {σ : Type}

/-- One outcome after the other is absorbed where these are present, each with the draws that are
left by then. -/
def Drawn (roster : List String) (count : Int) : Draws → List (Moment σ) → Prop
  | _, [] => True
  | d, m :: rest =>
    (∃ o lines, m.event = .absorbed o lines ∧
      Reply.Yields roster count o d lines m.session.draws) ∧
    Drawn roster count m.session.draws rest

namespace Drawn

variable {roster : List String} {count : Int} {d : Draws} {ms : List (Moment σ)} {m : Moment σ}

theorem exists_yields (h : Drawn roster count d ms) (hm : m ∈ ms) :
    ∃ o lines before, m.event = .absorbed o lines ∧
      Reply.Yields roster count o before lines m.session.draws := by
  induction ms generalizing d with
  | nil => cases hm
  | cons first rest ih =>
    obtain ⟨⟨o, lines, hevent, hyields⟩, hrest⟩ := h
    rcases List.mem_cons.mp hm with rfl | hm
    · exact ⟨o, lines, d, hevent, hyields⟩
    · exact ih hrest hm

theorem draws_of_crowd (h : Drawn roster count d ms) (hcrowd : (Activity.quietLimit : Int) < count)
    (hm : m ∈ ms) : m.session.draws = d := by
  induction ms generalizing d with
  | nil => cases hm
  | cons first rest ih =>
    obtain ⟨⟨o, lines, hevent, hyields⟩, hrest⟩ := h
    have hfirst : first.session.draws = d := (hyields.of_crowd hcrowd).2.1
    rcases List.mem_cons.mp hm with rfl | hm
    · exact hfirst
    · exact (ih hrest hm).trans hfirst

end Drawn

variable [Host σ]

theorem drawn_absorbing (clock : Float) (os : List Outcome) (s : Session σ) :
    Drawn s.tracker.snapshot.activeParticipants s.tracker.snapshot.participantCount s.draws
      (absorbing clock os s) := by
  induction os generalizing s with
  | nil => trivial
  | cons o rest ih =>
    unfold absorbing
    cases ha : Reply.absorb clock s.tracker.snapshot o s.queue s.draws s.host with
    | error b => exact ⟨⟨o, [], rfl, Reply.absorb_error_yields ha⟩, trivial⟩
    | ok a =>
      have hrest :=
        ih ({ s with queue := a.queue, draws := a.draws, host := a.host }.note a.notices)
      exact ⟨⟨o, a.lines, rfl, Reply.absorb_yields ha⟩, hrest⟩

theorem mem_absorbing_of_mem_ticking {s : Session σ} {clock : Float} {now : Option Float}
    {m : Moment σ} {o : Outcome} {lines : List String} (hm : m ∈ s.ticking clock now)
    (hevent : m.event = .absorbed o lines) :
    m ∈ absorbing clock s.handoff (s.refresh clock) := by
  obtain ⟨-, hhandoff, -⟩ := s.refresh_frame clock
  unfold ticking at hm
  split_ifs at hm
  · cases hm
  · rw [← hhandoff]
    rcases List.mem_append.mp hm with hm | hm
    · exact hm
    · split at hm
      · cases hm
      · unfold draining at hm
        split at hm
        · cases hm
        · rw [List.mem_singleton.mp hm] at hevent
          cases hevent

theorem refresh_of_told {s : Session σ} {clock : Float} {names : List (Option String)}
    (h : (Host.participants clock s.host).2 = some names) :
    (s.refresh clock).tracker = s.tracker.updateRoster names ∧
      (s.refresh clock).draws = s.draws := by
  unfold refresh
  generalize Host.participants clock s.host = asked at h
  obtain ⟨host, told⟩ := asked
  obtain rfl : told = some names := h
  exact ⟨rfl, rfl⟩

def rumour : Outcome := .saying "*leans in* Psst, @Bob! Cid has left. @Dan too."

/-- A session in a chat of six that the rumour has come back to, before it looked who is there. -/
def whispering : Session Rehearsal :=
  (fresh .nearby tavern (.ofScript [0.5])).start.complete rumour none

end Session
end Banter
