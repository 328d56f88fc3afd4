import Banter.Proofs.Session.Passage

/-!
A request that was issued comes back once. Whatever the other side does, and whatever happens to the
session in the meantime, one outcome is handed back, with what was received or with what went wrong.
-/
namespace Banter

namespace Wire

/-- Something goes wrong with a request. Nothing is asked of the other side unless its address can
be reached, and what it answers has to be read. -/
inductive Fails (s : Settings) : Answer → String → Prop
  | unreachable {flaw : HostFlaw} (h : obstacle? s = some flaw) (a : Answer) :
    Fails s a flaw.message
  | breakdown (h : obstacle? s = none) (kind : Breakdown) (message : String) :
    Fails s (.breakdown kind message) (kind.label ++ ": " ++ message)
  | crash (h : obstacle? s = none) (message : String) : Fails s (.crash message) message
  | unreadable {contentType : Option String} {bytes : List Nat} {mishap : Mishap}
    (h : obstacle? s = none) (hbody : decodeBody contentType bytes = .error mishap)
    (status : Int) : Fails s (.response status contentType bytes) mishap.message

inductive Delivers (s : Settings) : Answer → Int → String → Prop
  | response {contentType : Option String} {bytes : List Nat} {body : String}
    (h : obstacle? s = none) (hbody : decodeBody contentType bytes = .ok body) (status : Int) :
    Delivers s (.response status contentType bytes) status body

theorem fails_or_delivers (s : Settings) (a : Answer) :
    (∃ message, Fails s a message) ∨ ∃ status body, Delivers s a status body := by
  cases h : obstacle? s with
  | some flaw => exact .inl ⟨_, .unreachable h a⟩
  | none =>
    cases a with
    | breakdown kind message => exact .inl ⟨_, .breakdown h kind message⟩
    | crash message => exact .inl ⟨_, .crash h message⟩
    | response status contentType bytes =>
      cases hbody : decodeBody contentType bytes with
      | error mishap => exact .inl ⟨_, .unreadable h hbody status⟩
      | ok body => exact .inr ⟨_, _, .response h hbody status⟩

end Wire

namespace Ticket

variable {t : Ticket} {s : Settings} {a : Wire.Answer}

theorem ending_of_fails {message : String} (h : Wire.Fails s a message) :
    t.ending s a = ⟨t.request.userName, none, some "", some message⟩ := by
  cases h with
  | unreachable h | breakdown h | crash h =>
    rw [ending, h]
    rfl
  | unreadable h hbody =>
    rw [ending, h]
    simp only [Wire.settled, Wire.arrival, hbody, Wire.broken]

theorem ending_of_delivers {status : Int} {body : String} (h : Wire.Delivers s a status body) :
    t.ending s a = ⟨t.request.userName, some status, some body, none⟩ := by
  obtain ⟨h, hbody⟩ := h
  rw [ending, h]
  simp only [Wire.settled, Wire.arrival, hbody]

theorem sender_ending (t : Ticket) (s : Settings) (a : Wire.Answer) :
    (t.ending s a).sender = t.request.userName := by
  obtain ⟨_, hfails⟩ | ⟨_, _, hdelivers⟩ := Wire.fails_or_delivers s a
  · rw [ending_of_fails hfails]
  · rw [ending_of_delivers hdelivers]

theorem failure_ending_iff {message : String} :
    (t.ending s a).failure = some message ↔ Wire.Fails s a message := by
  constructor
  · intro hfailure
    obtain ⟨other, hfails⟩ | ⟨_, _, hdelivers⟩ := Wire.fails_or_delivers s a
    · rw [ending_of_fails hfails] at hfailure
      obtain rfl : other = message := Option.some.inj hfailure
      exact hfails
    · rw [ending_of_delivers hdelivers] at hfailure
      cases hfailure
  · intro hfails
    rw [ending_of_fails hfails]

theorem delivers_of_ending (h : (t.ending s a).failure = none) :
    ∃ status body, Wire.Delivers s a status body ∧
      (t.ending s a).status = some status ∧ (t.ending s a).body = some body := by
  obtain ⟨message, hfails⟩ | ⟨status, body, hdelivers⟩ := Wire.fails_or_delivers s a
  · rw [ending_of_fails hfails] at h
    cases h
  · rw [ending_of_delivers hdelivers]
    exact ⟨status, body, hdelivers, rfl, rfl⟩

end Ticket

namespace Session

variable {σ : Type}

/-- One outcome was handed back for a ticket: it waits behind the others, and the guard is open if
it was closed for this ticket. Nothing else changed but the journal. -/
def HandedBack (t : Ticket) (o : Outcome) (before after : Session σ) : Prop :=
  ∃ notices, after = { before.note notices with
    handoff := before.handoff ++ [o]
    pending := if before.pending = some t.token then none else before.pending }

theorem note_note (s : Session σ) (first second : List Notice) :
    (s.note first).note second = s.note (first ++ second) := by
  simp only [note, List.append_assoc]

theorem handedBack_complete (s : Session σ) (t : Ticket) (o : Outcome) :
    HandedBack t o s (s.complete o (some t.token)) := by
  refine ⟨[], ?_⟩
  simp only [complete, note, List.append_nil, reduceCtorEq, false_or, eq_comm (a := some t.token)]

theorem HandedBack.of_note {t : Ticket} {o : Outcome} {s u : Session σ} {notices : List Notice}
    (h : HandedBack t o (s.note notices) u) : HandedBack t o s u := by
  obtain ⟨more, rfl⟩ := h
  refine ⟨notices ++ more, ?_⟩
  rw [← note_note]
  rfl

theorem handedBack_conclude (s : Session σ) (t : Ticket) (ended : Outcome × List Notice) :
    HandedBack t ended.1 s (s.conclude t ended) :=
  (handedBack_complete (s.note ended.2) t ended.1).of_note

/-- The request of a ticket ends at once where it cannot go out. Else only the journal shows it, and
its answer comes in while the session is in any state. -/
theorem request_comes_back (s : Session σ) (t : Ticket) (a : Wire.Answer) :
    ∃ o : Outcome, o.sender = t.request.userName ∧
      (∀ message, o.failure = some message ↔ Wire.Fails s.settings a message) ∧
      (o.failure = none → ∃ status body, Wire.Delivers s.settings a status body ∧
        o.status = some status ∧ o.body = some body) ∧
      HandedBack t o s (s.requestReply t a) ∧
      (s.reachable = false ∧ HandedBack t o s (s.send t) ∨
        s.reachable = true ∧ (∃ notices, s.send t = s.note notices) ∧
          ∀ later : Session σ, HandedBack t o later (later.receive t a)) := by
  have hwhole : HandedBack t (t.ending s.settings a) s (s.requestReply t a) := by
    rw [requestReply_report]
    exact (handedBack_complete _ t _).of_note
  refine ⟨t.ending s.settings a, t.sender_ending s.settings a,
    fun _ => Ticket.failure_ending_iff, Ticket.delivers_of_ending, hwhole, ?_⟩
  have hnoted : (s.note (Wire.departure t.request)).settings = s.settings := rfl
  cases hw : Wire.obstacle? s.settings with
  | some flaw =>
    have hreach : s.reachable = false := by rw [reachable, hw, Option.isNone_some]
    rw [requestReply, if_neg (by simp [hreach])] at hwhole
    exact .inl ⟨hreach, hwhole⟩
  | none =>
    have hreach : s.reachable = true := by rw [reachable, hw, Option.isNone_none]
    have hsent : s.send t = s.note (Wire.departure t.request) := by
      unfold send
      simp only [hnoted, hw]
    have hending : t.ending s.settings a = (Wire.settled t.request a).1 := by
      rw [Ticket.ending, hw]
    rw [hending]
    exact .inr ⟨hreach, ⟨_, hsent⟩, fun later => later.handedBack_conclude t _⟩

end Session
end Banter
