import Banter.Proofs.History
import Banter.Proofs.Session.Equipment
import Banter.Rehearsal
import Mathlib.Data.List.Induction

/-! At most one request is out at a time, and two that follow each other keep their distance. -/
namespace Banter.Session

variable {σ : Type}

/-- Does a command hand back the outcome of the request with the given number? -/
def Command.answers (token : Nat) : Command σ → Bool
  | .complete _ t => t == some token
  | .requestReply ticket _ => ticket.token == token
  | _ => false

/-- An outcome is handed back under a number, unless this is left open. -/
def Command.labelled : Command σ → Bool
  | .complete _ none => false
  | _ => true

/-- What is out after a command that issues nothing: what was out before, unless it came back or
was forgotten. -/
def Command.leaves (command : Command σ) (pending : Option Nat) : Option Nat :=
  pending.filter fun token => !(command.forgets || command.answers token)

namespace Command

variable {command : Command σ}

theorem leaves_of_unanswered {pending : Option Nat} (ha : ∀ token, command.answers token = false)
    (hf : command.forgets = false) : command.leaves pending = pending := by
  cases pending <;> simp [leaves, ha, hf]

theorem leaves_of_forgets {pending : Option Nat} (hf : command.forgets = true) :
    none = command.leaves pending := by
  cases pending <;> simp [leaves, hf]

theorem leaves_of_token {pending : Option Nat} {token : Nat}
    (ha : ∀ n, command.answers n = (some token == some n)) (hf : command.forgets = false) :
    (if some token = none ∨ some token = pending then none else pending) =
      command.leaves pending := by
  cases pending with
  | none => rfl
  | some n => by_cases he : token = n <;> simp [leaves, ha, hf, he, Option.filter_some]

theorem leaves_eq_some_iff {pending : Option Nat} {token : Nat} :
    command.leaves pending = some token ↔
      pending = some token ∧ command.answers token = false ∧ command.forgets = false := by
  cases pending with
  | none => simp [leaves]
  | some n =>
    simp only [leaves, Option.filter_eq_some_iff]
    constructor
    · rintro ⟨hn, hk⟩
      simp only [Bool.not_or, Bool.and_eq_true, Bool.not_eq_true'] at hk
      exact ⟨hn, hk.2, hk.1⟩
    · rintro ⟨hn, ha, hf⟩
      exact ⟨hn, by simp [ha, hf]⟩

end Command

/-- A number that is no longer out and never will be again. -/
def Spent (token : Nat) (s : Session σ) : Prop :=
  token < s.nextToken ∧ s.pending ≠ some token

theorem Spent.pending_complete {token : Nat} {s : Session σ} (h : Spent token s)
    (outcome : Outcome) : (s.complete outcome (some token)).pending = s.pending := by
  have hno : ¬ (some token = none ∨ some token = s.pending) := by
    rintro (hn | hp)
    · cases hn
    · exact h.2 hp.symm
  rw [complete, if_neg hno]

variable [Host σ]

/-- A ticket takes the next number. It is issued only while none is out and the gate has rested. -/
theorem step_issuing {c : Scene σ} {command : Command σ} {ticket : Ticket}
    (h : (step c command).1.ticket? = some ticket) :
    ticket.token = c.session.nextToken ∧ c.session.pending = none ∧
      c.session.gate.rested c.clock = true ∧
      (step c command).2.session.standing =
        { c.session.standing with
          gate := { c.session.gate with lastResponse := some c.clock }
          pending := some ticket.token
          nextToken := c.session.nextToken + 1 } := by
  cases command with
  | hear e =>
    obtain ⟨hnone, -⟩ | ⟨t, ht, htoken, hfree, hrested, hs⟩ := c.session.hear_cases c.clock e
    · change (c.session.hear c.clock e).1.ticket = some ticket at h
      rw [hnone] at h
      cases h
    · change (c.session.hear c.clock e).1.ticket = some ticket at h
      obtain rfl : t = ticket := Option.some.inj (ht.symm.trans h)
      exact ⟨htoken, hfree, hrested, hs⟩
  | _ => cases h

theorem ticket?_of_forgets (c : Scene σ) {command : Command σ} (hf : command.forgets = true) :
    (step c command).1.ticket? = none := by
  cases command with
  | start => rfl
  | stop => rfl
  | reset => rfl
  | _ => cases hf

theorem step_quiet {c : Scene σ} {command : Command σ} (hl : command.labelled = true)
    (h : (step c command).1.ticket? = none) :
    (step c command).2.session.pending = command.leaves c.session.pending ∧
      (step c command).2.session.gate =
        if command.forgets then c.session.gate.reset else c.session.gate := by
  have hstays : ∀ {s : Session σ}, s.standing = c.session.standing →
      (∀ token, command.answers token = false) → command.forgets = false →
      s.pending = command.leaves c.session.pending ∧
        s.gate = if command.forgets then c.session.gate.reset else c.session.gate := by
    intro s hs ha hf
    rw [Command.leaves_of_unanswered ha hf, hf]
    exact ⟨congrArg Standing.pending hs, congrArg Standing.gate hs⟩
  cases command with
  | start => exact ⟨Command.leaves_of_forgets rfl, rfl⟩
  | stop => exact ⟨Command.leaves_of_forgets rfl, rfl⟩
  | reset => exact ⟨Command.leaves_of_forgets rfl, rfl⟩
  | hear e =>
    obtain ⟨-, hs⟩ | ⟨t, ht, -⟩ := c.session.hear_cases c.clock e
    · exact hstays hs (fun _ => rfl) rfl
    · change (c.session.hear c.clock e).1.ticket = none at h
      rw [ht] at h
      cases h
  | complete o token =>
    cases token with
    | none => cases hl
    | some n => exact ⟨Command.leaves_of_token (fun _ => rfl) rfl, rfl⟩
  | requestReply ticket answer =>
    obtain ⟨notices, hr⟩ := c.session.requestReply_eq ticket answer
    simp only [step, Scene.put, hr]
    exact ⟨Command.leaves_of_token (fun _ => rfl) rfl, rfl⟩
  | processCompletions => exact hstays (standing_absorbAll c.clock _ 0 _) (fun _ => rfl) rfl
  | refresh => exact hstays (c.session.refresh_frame c.clock).1 (fun _ => rfl) rfl
  | heartbeat now => exact hstays (c.session.standing_heartbeat c.clock now) (fun _ => rfl) rfl
  | advance seconds => exact hstays rfl (fun _ => rfl) rfl
  | setClock time => exact hstays rfl (fun _ => rfl) rfl
  | enqueue lines => exact hstays rfl (fun _ => rfl) rfl
  | changeHost change => exact hstays rfl (fun _ => rfl) rfl

theorem pending_step_iff {c : Scene σ} {command : Command σ} (hl : command.labelled = true)
    {token : Nat} :
    (step c command).2.session.pending = some token ↔
      (∃ ticket, (step c command).1.ticket? = some ticket ∧ ticket.token = token) ∨
        c.session.pending = some token ∧ command.answers token = false ∧
          command.forgets = false := by
  cases ht : (step c command).1.ticket? with
  | some ticket =>
    obtain ⟨-, hfree, -, hs⟩ := step_issuing ht
    have hpending := congrArg Standing.pending hs
    simp only [standing] at hpending
    simp [hpending, hfree]
  | none => simp [(step_quiet hl ht).1, Command.leaves_eq_some_iff]

/-- What is out came from a ticket that was neither answered nor forgotten since. -/
theorem pending_eq_some_iff {settings : Settings} {host : σ} {draws : Draws} {clock : Float}
    {commands : List (Command σ)} (hl : ∀ command ∈ commands, command.labelled = true)
    {token : Nat} :
    (run ⟨clock, .fresh settings host draws⟩ commands).2.session.pending = some token ↔
      ∃ before command after ticket, commands = before ++ command :: after ∧
        (step (run ⟨clock, .fresh settings host draws⟩ before).2 command).1.ticket? = some ticket ∧
        ticket.token = token ∧
        ∀ later ∈ after, later.answers token = false ∧ later.forgets = false := by
  -- From the right: the last command has issued it, or has left it out.
  induction commands using List.reverseRecOn with
  | nil => simp [run, fresh]
  | append_singleton commands last ih =>
    specialize ih fun command hc => hl command (List.mem_append_left _ hc)
    rw [run_snoc, pending_step_iff (hl last (by simp)), ih]
    constructor
    · rintro (⟨ticket, hi, htoken⟩ |
        ⟨⟨before, command, after, ticket, rfl, hi, htoken, hquiet⟩, hleft⟩)
      · exact ⟨commands, last, [], ticket, rfl, hi, htoken, by simp⟩
      · refine ⟨before, command, after ++ [last], ticket, by simp, hi, htoken, ?_⟩
        intro later hlater
        obtain hlater | rfl := List.mem_append.mp hlater |>.imp_right List.mem_singleton.mp
        · exact hquiet later hlater
        · exact hleft
    · rintro ⟨before, command, after, ticket, hsplit, hi, htoken, hquiet⟩
      rcases snoc_eq_append_cons_iff.mp hsplit with ⟨rfl, rfl, -⟩ | ⟨after, rfl, rfl⟩
      · exact .inl ⟨ticket, hi, htoken⟩
      · exact .inr ⟨⟨before, command, after, ticket, rfl, hi, htoken,
          fun later hlater => hquiet later (by simp [hlater])⟩, hquiet last (by simp)⟩

theorem tokens_eq_range' (c : Scene σ) (commands : List (Command σ)) :
    ((run c commands).1.filterMap Result.ticket?).map Ticket.token =
      List.range' c.session.nextToken ((run c commands).1.filterMap Result.ticket?).length := by
  induction commands generalizing c with
  | nil => rfl
  | cons command rest ih =>
    have hrest := ih (step c command).2
    have hnext := nextToken_step c command
    simp only [run, List.filterMap_cons]
    cases ht : (step c command).1.ticket? with
    | none =>
      rw [ht] at hnext
      rwa [hnext] at hrest
    | some ticket =>
      rw [ht] at hnext
      rw [List.map_cons, List.length_cons, List.range'_succ, hrest, hnext, (step_issuing ht).1]
      rfl

theorem Spent.step {token : Nat} {c : Scene σ} {command : Command σ} (h : Spent token c.session)
    (hl : command.labelled = true) : Spent token (step c command).2.session := by
  obtain ⟨hlt, hne⟩ := h
  have hnext := nextToken_step c command
  refine ⟨by omega, ?_⟩
  rw [Ne, pending_step_iff hl]
  rintro (⟨ticket, hi, rfl⟩ | ⟨hp, -⟩)
  · exact Nat.ne_of_lt hlt (step_issuing hi).1
  · exact hne hp

theorem Spent.run {token : Nat} {c : Scene σ} {commands : List (Command σ)}
    (h : Spent token c.session) (hl : ∀ command ∈ commands, command.labelled = true) :
    Spent token (run c commands).2.session := by
  induction commands generalizing c with
  | nil => exact h
  | cons command rest ih =>
    exact ih (h.step (hl command List.mem_cons_self)) fun later hlater =>
      hl later (List.mem_cons_of_mem _ hlater)

theorem spent_of_forgets {token : Nat} {c : Scene σ} {commands : List (Command σ)}
    (hlt : token < c.session.nextToken) (hl : ∀ command ∈ commands, command.labelled = true)
    (hf : ∃ command ∈ commands, command.forgets = true) :
    Spent token (run c commands).2.session := by
  obtain ⟨command, hmem, hf⟩ := hf
  obtain ⟨before, after, rfl⟩ := List.append_of_mem hmem
  have hbefore := nextToken_run c before
  have hcommand : command.labelled = true := hl command (by simp)
  have hspent : Spent token (step (run c before).2 command).2.session := by
    have hnext := nextToken_step (run c before).2 command
    refine ⟨by omega, ?_⟩
    rw [(step_quiet hcommand (ticket?_of_forgets (run c before).2 hf)).1,
      ← Command.leaves_of_forgets hf]
    exact (Option.some_ne_none token).symm
  rw [run_append]
  exact hspent.run fun x hx => hl x (by simp [hx])

theorem run_quiet {c : Scene σ} {commands : List (Command σ)}
    (hl : ∀ command ∈ commands, command.labelled = true)
    (hf : ∀ command ∈ commands, command.forgets = false)
    (hq : ∀ result ∈ (run c commands).1, result.ticket? = none) :
    (run c commands).2.session.gate = c.session.gate ∧
      ∀ token, c.session.pending = some token →
        (∀ command ∈ commands, command.answers token = false) →
        (run c commands).2.session.pending = some token := by
  induction commands generalizing c with
  | nil => exact ⟨rfl, fun _ hp _ => hp⟩
  | cons command rest ih =>
    have hquiet : (step c command).1.ticket? = none := hq _ List.mem_cons_self
    obtain ⟨hpending, hgate⟩ := step_quiet (hl command List.mem_cons_self) hquiet
    rw [hf command List.mem_cons_self] at hgate
    obtain ⟨hgates, houts⟩ := ih (c := (step c command).2)
      (fun later hlater => hl later (List.mem_cons_of_mem _ hlater))
      (fun later hlater => hf later (List.mem_cons_of_mem _ hlater))
      (fun result hr => hq result (List.mem_cons_of_mem _ hr))
    refine ⟨hgates.trans hgate, ?_⟩
    intro token hp ha
    refine houts token ?_ fun later hlater => ha later (List.mem_cons_of_mem _ hlater)
    rw [hpending, Command.leaves_eq_some_iff]
    exact ⟨hp, ha command List.mem_cons_self, hf command List.mem_cons_self⟩

/-- Between two tickets that follow each other the first is answered, and the cooldown passes. -/
theorem answered_of_issued_twice {c : Scene σ} {first second : Command σ}
    {between : List (Command σ)} {t₁ t₂ : Ticket}
    (hl : ∀ command ∈ between, command.labelled = true)
    (hf : ∀ command ∈ between, command.forgets = false)
    (h₁ : (step c first).1.ticket? = some t₁)
    (hq : ∀ result ∈ (run (step c first).2 between).1, result.ticket? = none)
    (h₂ : (step (run (step c first).2 between).2 second).1.ticket? = some t₂) :
    (∃ command ∈ between, command.answers t₁.token = true) ∧
      c.session.gate.cooldown ≤ (run (step c first).2 between).2.clock - c.clock := by
  obtain ⟨-, -, -, hs⟩ := step_issuing h₁
  obtain ⟨-, hfree, hrested, -⟩ := step_issuing h₂
  obtain ⟨hgate, hout⟩ := run_quiet hl hf hq
  constructor
  · by_contra hnone
    push Not at hnone
    have hstill := hout t₁.token (congrArg Standing.pending hs) fun command hc => by
      simpa using hnone command hc
    rw [hfree] at hstill
    cases hstill
  · have hstamped : (run (step c first).2 between).2.session.gate =
        { c.session.gate with lastResponse := some c.clock } :=
      hgate.trans (congrArg Standing.gate hs)
    rw [hstamped] at hrested
    simpa [Gate.rested] using hrested

/-- A request is out from its ticket until it is answered or forgotten, and a forgotten number
touches no later request. Two tickets in a row have an answer and ten seconds between them. -/
theorem one_request_at_a_time (settings : Settings) (host : σ) (draws : Draws) (clock : Float)
    (commands : List (Command σ)) (hl : ∀ command ∈ commands, command.labelled = true) :
    let start : Scene σ := ⟨clock, .fresh settings host draws⟩
    ((run start commands).2.session.requestInFlight = true ↔
      ∃ before command after ticket, commands = before ++ command :: after ∧
        (step (run start before).2 command).1.ticket? = some ticket ∧
        ∀ later ∈ after, later.answers ticket.token = false ∧ later.forgets = false) ∧
    (∀ before command after ticket, commands = before ++ command :: after →
      (step (run start before).2 command).1.ticket? = some ticket →
      (∃ later ∈ after, later.forgets = true) →
      ∀ outcome, ((run start commands).2.session.complete outcome (some ticket.token)).pending =
        (run start commands).2.session.pending) ∧
    (((run start commands).1.filterMap Result.ticket?).map Ticket.token).Pairwise (· < ·) ∧
    (∀ before first between second after t₁ t₂,
      commands = before ++ first :: between ++ second :: after →
      (step (run start before).2 first).1.ticket? = some t₁ →
      (∀ result ∈ (run (step (run start before).2 first).2 between).1, result.ticket? = none) →
      (∀ command ∈ between, command.forgets = false) →
      (step (run start (before ++ first :: between)).2 second).1.ticket? = some t₂ →
      (∃ command ∈ between, command.answers t₁.token = true) ∧
        (10.0 : Float) ≤
          (run start (before ++ first :: between)).2.clock - (run start before).2.clock) := by
  intro start
  refine ⟨?_, ?_, ?_, ?_⟩
  · rw [requestInFlight, Option.isSome_iff_exists]
    constructor
    · rintro ⟨token, hp⟩
      obtain ⟨before, command, after, ticket, hsplit, hi, rfl, hquiet⟩ :=
        (pending_eq_some_iff hl).mp hp
      exact ⟨before, command, after, ticket, hsplit, hi, hquiet⟩
    · rintro ⟨before, command, after, ticket, hsplit, hi, hquiet⟩
      exact ⟨ticket.token, (pending_eq_some_iff hl).mpr
        ⟨before, command, after, ticket, hsplit, hi, rfl, hquiet⟩⟩
  · rintro before command after ticket rfl hi hf outcome
    obtain ⟨htoken, -, -, hs⟩ := step_issuing hi
    have hnext : (step (run start before).2 command).2.session.nextToken =
        (run start before).2.session.nextToken + 1 := congrArg Standing.nextToken hs
    have hspent : Spent ticket.token (run start (before ++ command :: after)).2.session := by
      rw [run_append]
      exact spent_of_forgets (c := (step (run start before).2 command).2) (by omega)
        (fun later hlater => hl later (by simp [hlater])) hf
    exact hspent.pending_complete outcome
  · rw [tokens_eq_range' start commands]
    exact List.pairwise_lt_range'
  · rintro before first between second after t₁ t₂ rfl h₁ hq hf h₂
    have hbefore : (run start before).2.session.gate.cooldown = 10.0 :=
      ((Equipped.fresh settings host draws false).run (c := start) before).cooldown
    rw [run_append] at h₂ ⊢
    rw [← hbefore]
    exact answered_of_issued_twice (fun command hc => hl command (by simp [hc])) hf h₁ hq h₂

/-- The first request is forgotten, the second answered, and the third goes out ten seconds after
the second. -/
def reunion : List (Command Rehearsal) :=
  [.start, .hear ⟨"Ann", "hi", .publicChat⟩, .reset, .hear ⟨"Bob", "hi", .publicChat⟩,
    .complete (.saying "Hello.") (some 2), .advance 10, .hear ⟨"Cid", "hi", .publicChat⟩]

def lobby : Scene Rehearsal := ⟨1000, .fresh .nearby (.fresh [] []) (.ofScript [0, 0, 0])⟩

theorem requests_of_reunion :
    (run lobby reunion).2.session.requestInFlight = true ∧
      ((run lobby reunion).2.session.complete (.saying "Late.") (some 1)).pending = some 3 ∧
      (10.0 : Float) ≤
        (run lobby (reunion.take 6)).2.clock - (run lobby (reunion.take 3)).2.clock := by
  have hall := one_request_at_a_time .nearby (Rehearsal.fresh [] []) (.ofScript [0, 0, 0]) 1000
    reunion (by decide)
  rw [show (⟨1000, .fresh .nearby (.fresh [] []) (.ofScript [0, 0, 0])⟩ : Scene Rehearsal) = lobby
    from rfl] at hall
  obtain ⟨hout, hstale, -, hpace⟩ := hall
  have hann : ((step (run lobby (reunion.take 1)).2 reunion[1]).1.ticket?).map Ticket.token =
      some 1 := by decide +kernel
  have hbob : ((step (run lobby (reunion.take 3)).2 reunion[3]).1.ticket?).map Ticket.token =
      some 2 := by decide +kernel
  have hcid : ((step (run lobby (reunion.take 6)).2 reunion[6]).1.ticket?).map Ticket.token =
      some 3 := by decide +kernel
  have hquiet : ∀ result ∈ (run (step (run lobby (reunion.take 3)).2 reunion[3]).2
      [reunion[4], reunion[5]]).1, result.ticket? = none := by decide +kernel
  have hlast : (run lobby reunion).2.session.pending = some 3 := by decide +kernel
  obtain ⟨ann, hann, htoken⟩ := Option.map_eq_some_iff.mp hann
  obtain ⟨bob, hbob, -⟩ := Option.map_eq_some_iff.mp hbob
  obtain ⟨cid, hcid, -⟩ := Option.map_eq_some_iff.mp hcid
  have hlate := hstale (reunion.take 1) reunion[1] (reunion.drop 2) ann rfl hann
    (by decide) (.saying "Late.")
  rw [htoken, hlast] at hlate
  have hpaced := (hpace (reunion.take 3) reunion[3] [reunion[4], reunion[5]] reunion[6] [] bob cid
    rfl hbob hquiet (by decide) hcid).2
  rw [show reunion.take 3 ++ reunion[3] :: [reunion[4], reunion[5]] = reunion.take 6 from rfl]
    at hpaced
  have hthird := hout.mpr ⟨reunion.take 6, reunion[6], [], cid, rfl, hcid, by simp⟩
  exact ⟨hthird, hlate, hpaced⟩

end Banter.Session
