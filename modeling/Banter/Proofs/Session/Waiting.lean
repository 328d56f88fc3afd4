import Banter.Proofs.Delivery.Queue
import Banter.Proofs.Session.Tick

/-!
A session that is only waited for comes to rest: each tick that may say a line makes less of what is
left to do, also where the host fails or an outcome cannot be read.
-/
namespace Banter.Session

variable {σ : Type}

/-- What is left to do: outcomes to absorb, then lines to say. -/
def backlog (s : Session σ) : Nat × Nat :=
  (s.handoff.length, s.queue.lines.length)

/-- No more ticks than this are still needed, if each finds the pause passed. -/
def burden (s : Session σ) : Nat :=
  s.queue.lines.length + (Selection.mostParts + 1) * s.handoff.length

/-- A started session that no request is out for, between two operations. -/
structure Awaited (s : Session σ) : Prop where
  started : s.started = true
  free : s.pending = none
  quiet : s.queue.busy = false

theorem Awaited.idle_iff {s : Session σ} (h : Awaited s) : s.idle = true ↔ s.burden = 0 := by
  have hnone : s.burden = 0 ↔ s.queue.lines = [] ∧ s.handoff = [] := by
    rw [burden, Nat.add_eq_zero_iff, Nat.mul_eq_zero, List.length_eq_zero_iff,
      List.length_eq_zero_iff, or_iff_right (Nat.succ_ne_zero _)]
  rw [hnone, idle, requestInFlight, h.free, h.quiet]
  simp [and_comm]

/-- What does nothing to a session but wait for it: time passes, the chat changes, and it ticks. -/
def Command.waits : Command σ → Bool
  | advance _ => true
  | setClock _ => true
  | heartbeat _ => true
  | changeHost _ => true
  | _ => false

def Scene.due (c : Scene σ) : Command σ → Bool
  | .heartbeat now => c.session.queue.ready (now.getD c.clock)
  | _ => false

variable [Host σ]

def Scene.passes (c : Scene σ) : List (Command σ) → Nat
  | [] => 0
  | command :: rest => (c.due command).toNat + (step c command).2.passes rest

theorem absorbAll_queue (clock : Float) (os : List Outcome) (n : Nat) (s : Session σ) :
    ∃ lines, (absorbAll clock os n s).2.queue = { s.queue with lines := s.queue.lines ++ lines } ∧
      lines.length + Selection.mostParts * (absorbAll clock os n s).2.handoff.length ≤
        Selection.mostParts * os.length := by
  induction os generalizing n s with
  | nil => exact ⟨[], by rw [List.append_nil]; rfl, Nat.le_refl _⟩
  | cons o rest ih =>
    rw [List.length_cons, Nat.mul_succ]
    unfold absorbAll
    cases ha : s.absorb clock o with
    | error b => exact ⟨[], by rw [List.append_nil], by simp⟩
    | ok t =>
      obtain ⟨a, hreply, rfl⟩ := absorb_eq_ok ha
      obtain ⟨lines, hqueue, hlines⟩ := ih (n + 1) _
      have hmore := Reply.length_absorb_lines_le hreply
      dsimp only
      refine ⟨a.lines ++ lines, ?_, ?_⟩
      · rw [hqueue]
        simp only [note, Reply.absorb_queue hreply, List.append_assoc]
      · rw [List.length_append]
        omega

theorem length_handoff_absorbAll_lt (clock : Float) {os : List Outcome} (h : os ≠ []) (n : Nat)
    (s : Session σ) : (absorbAll clock os n s).2.handoff.length < os.length := by
  obtain ⟨o, rest, rfl⟩ := List.exists_cons_of_ne_nil h
  unfold absorbAll
  cases s.absorb clock o with
  | error b => exact Nat.lt_succ_self _
  | ok t =>
    obtain ⟨lines, -, hlines⟩ := absorbAll_queue clock rest (n + 1) t
    have hleft := Nat.le_of_mul_le_mul_left (Nat.le_trans (Nat.le_add_left _ _) hlines)
      (by decide : 0 < Selection.mostParts)
    exact Nat.lt_succ_of_le hleft

theorem drain_queue {s : Session σ} (h : s.queue.busy = false) (clock : Float)
    (now : Option Float) :
    (s.drain clock now).2.handoff = s.handoff ∧ (s.drain clock now).2.queue.busy = false ∧
      (s.drain clock now).2.queue.lines =
        if s.queue.ready (now.getD clock) then s.queue.lines.tail else s.queue.lines := by
  unfold drain Delivery.Queue.take?
  rw [h, Bool.false_or]
  cases hl : s.queue.lines with
  | nil => simp [hl, h]
  | cons line rest =>
    cases s.queue.ready (now.getD clock) with
    | true => exact ⟨rfl, rfl, rfl⟩
    | false => exact ⟨rfl, h, hl⟩

theorem length_drain_le {s : Session σ} (h : s.queue.busy = false) (clock : Float)
    (now : Option Float) :
    (s.drain clock now).2.queue.lines.length ≤ s.queue.lines.length := by
  rw [(drain_queue h clock now).2.2]
  split_ifs
  · rw [List.length_tail]
    exact Nat.sub_le _ _
  · exact Nat.le_refl _

theorem heartbeat_queue {s : Session σ} (hs : s.started = true) (h : s.queue.busy = false)
    (clock : Float) (now : Option Float) :
    (s.heartbeat clock now).2.queue.busy = false ∧
    (s.handoff ≠ [] →
      (s.heartbeat clock now).2.handoff.length < s.handoff.length ∧
      (s.heartbeat clock now).2.queue.lines.length +
          Selection.mostParts * (s.heartbeat clock now).2.handoff.length ≤
        s.queue.lines.length + Selection.mostParts * s.handoff.length) ∧
    (s.handoff = [] → (s.heartbeat clock now).2.handoff = [] ∧
      (s.heartbeat clock now).2.queue.lines =
        if s.queue.ready (now.getD clock) then s.queue.lines.tail else s.queue.lines) := by
  have hall := s.processCompletions_refresh clock
  obtain ⟨-, -, hqueue, -⟩ := s.refresh_frame clock
  obtain ⟨lines, hlonger, hbound⟩ := absorbAll_queue clock s.handoff 0 (s.refresh clock)
  have hfewer : s.handoff ≠ [] → _ := fun hne =>
    length_handoff_absorbAll_lt clock hne 0 (s.refresh clock)
  rw [← hall] at hlonger hbound hfewer
  rw [hqueue] at hlonger
  have hnone : s.handoff = [] →
      (s.refresh clock).processCompletions clock =
        (.ok 0, { s.refresh clock with handoff := [] }) := by
    intro hnil
    rw [hall, hnil]
    rfl
  have hlength := congrArg (fun q => q.lines.length) hlonger
  rw [List.length_append] at hlength
  -- A breach ends the tick before anything is said.
  cases hresult : ((s.refresh clock).processCompletions clock).1 with
  | error b =>
    rw [heartbeat_of_error now hs hresult]
    dsimp only
    refine ⟨by rw [hlonger]; exact h, fun hne => ⟨hfewer hne, by omega⟩, fun hnil => ?_⟩
    rw [hnone hnil] at hresult
    cases hresult
  | ok n =>
    rw [heartbeat_of_ok now hs hresult]
    have hquiet : ((s.refresh clock).processCompletions clock).2.queue.busy = false := by
      rw [hlonger]
      exact h
    obtain ⟨hkept, hstill, hsaid⟩ := drain_queue hquiet clock now
    dsimp only
    refine ⟨hstill, fun hne => ?_, fun hnil => ?_⟩
    · have hshorter := length_drain_le hquiet clock now
      rw [hkept]
      exact ⟨hfewer hne, by omega⟩
    · rw [hkept, hsaid, hnone hnil]
      dsimp only
      rw [hqueue]
      exact ⟨rfl, rfl⟩

theorem heartbeat_of_idle {s : Session σ} (hs : s.started = true) (h : s.idle = true)
    (clock : Float) (now : Option Float) :
    s.heartbeat clock now = (.ok none, s.refresh clock) := by
  obtain ⟨-, hhandoff, hqueue, -⟩ := s.refresh_frame clock
  have hnil : s.handoff = [] ∧ s.queue.lines = [] := by
    simp only [idle, Bool.and_eq_true, List.isEmpty_iff] at h
    exact ⟨h.1.1.2, h.1.2⟩
  have hall : (s.refresh clock).processCompletions clock = (.ok 0, s.refresh clock) := by
    have hsame : { s.refresh clock with handoff := [] } = s.refresh clock := by
      rw [← hnil.1, ← hhandoff]
    rw [processCompletions_refresh, hnil.1, absorbAll, hsame]
  rw [heartbeat_of_ok now hs (congrArg Prod.fst hall), hall]
  dsimp only
  rw [drain, Delivery.Queue.take?, hqueue, hnil.2]

theorem Awaited.backlog_heartbeat {s : Session σ} (h : Awaited s) {clock : Float}
    {now : Option Float} (hdue : s.queue.ready (now.getD clock) = true) (hbusy : s.idle = false) :
    Prod.Lex (· < ·) (· < ·) (s.heartbeat clock now).2.backlog s.backlog := by
  obtain ⟨-, hsome, hnone⟩ := heartbeat_queue h.started h.quiet clock now
  by_cases hnil : s.handoff = []
  · obtain ⟨hleft, hsaid⟩ := hnone hnil
    have hne : s.queue.lines ≠ [] := by
      intro hl
      rw [h.idle_iff.mpr (by simp [burden, hnil, hl])] at hbusy
      cases hbusy
    rw [if_pos hdue] at hsaid
    rw [backlog, backlog, hleft, hnil, hsaid]
    refine .right _ ?_
    rw [List.length_tail]
    exact Nat.sub_lt (List.length_pos_iff.mpr hne) Nat.one_pos
  · exact .left _ _ (hsome hnil).1

theorem busy_step {c : Scene σ} (h : c.session.queue.busy = false) (command : Command σ) :
    (step c command).2.session.queue.busy = false := by
  cases command with
  | advance | setClock | complete | enqueue | changeHost => exact h
  | start | stop | reset => rfl
  | hear e =>
    obtain ⟨-, hqueue, -⟩ := c.session.hear_frame c.clock e
    exact (congrArg Delivery.Queue.busy hqueue).trans h
  | requestReply ticket answer =>
    obtain ⟨notices, hreply⟩ := c.session.requestReply_eq ticket answer
    simp only [step, Scene.put, hreply]
    exact h
  | processCompletions =>
    obtain ⟨lines, hqueue, -⟩ := absorbAll_queue c.clock c.session.handoff 0 c.session
    exact (congrArg Delivery.Queue.busy hqueue).trans h
  | refresh =>
    obtain ⟨-, -, hqueue, -⟩ := c.session.refresh_frame c.clock
    exact (congrArg Delivery.Queue.busy hqueue).trans h
  | heartbeat now =>
    cases hs : c.session.started with
    | true => exact (heartbeat_queue hs h c.clock now).1
    | false =>
      simp only [step, Scene.put, heartbeat, hs]
      exact h

theorem busy_run {c : Scene σ} (h : c.session.queue.busy = false) (commands : List (Command σ)) :
    (run c commands).2.session.queue.busy = false := by
  induction commands generalizing c with
  | nil => exact h
  | cons command rest ih => exact ih (busy_step h command)

theorem Awaited.step {c : Scene σ} (h : Awaited c.session) {command : Command σ}
    (hwait : command.waits = true) :
    Awaited (Session.step c command).2.session ∧
      (Session.step c command).2.session.burden ≤
        c.session.burden - (c.due command).toNat := by
  cases command with
  | advance | setClock | changeHost => exact ⟨⟨h.started, h.free, h.quiet⟩, Nat.le_refl _⟩
  | heartbeat now =>
    have hstanding := c.session.standing_heartbeat c.clock now
    obtain ⟨hquiet, hsome, hnone⟩ := heartbeat_queue h.started h.quiet c.clock now
    refine ⟨⟨?_, ?_, hquiet⟩, ?_⟩
    · exact (congrArg Standing.started hstanding).trans h.started
    · exact (congrArg Standing.pending hstanding).trans h.free
    have hone := Bool.toNat_le (c.due (.heartbeat now))
    change (c.session.heartbeat c.clock now).2.burden ≤ _
    unfold burden
    rw [Nat.succ_mul, Nat.succ_mul]
    by_cases hnil : c.session.handoff = []
    · obtain ⟨hleft, hsaid⟩ := hnone hnil
      rw [hleft, hsaid, hnil]
      cases hdue : c.session.queue.ready (now.getD c.clock) with
      | true => simp [Scene.due, hdue]
      | false => simp [Scene.due, hdue]
    · obtain ⟨hfewer, hlines⟩ := hsome hnil
      omega
  | _ => cases hwait

theorem Awaited.run {c : Scene σ} (h : Awaited c.session) {wait : List (Command σ)}
    (hwait : ∀ command ∈ wait, command.waits = true) :
    Awaited (Session.run c wait).2.session ∧
      (Session.run c wait).2.session.burden ≤ c.session.burden - c.passes wait := by
  induction wait generalizing c with
  | nil => exact ⟨h, Nat.le_refl _⟩
  | cons command rest ih =>
    obtain ⟨hfirst, hrest⟩ := List.forall_mem_cons.mp hwait
    obtain ⟨hnext, hless⟩ := h.step hfirst
    obtain ⟨hlast, hleast⟩ := ih hnext hrest
    refine ⟨hlast, Nat.le_trans hleast ?_⟩
    rw [Scene.passes, ← Nat.sub_sub]
    exact Nat.sub_le_sub_right hless _

/-- Once a session is started and no request is out, each tick that finds the pause passed leaves
less to do. After enough of these it is idle, and stays so. -/
theorem waiting_ends (settings : Settings) (host : σ) (draws : Draws) (clock : Float)
    (past wait : List (Command σ)) :
    let c := (run ⟨clock, .fresh settings host draws⟩ past).2
    let d := (run c wait).2
    c.session.started = true → c.session.requestInFlight = false →
    (∀ command ∈ wait, command.waits = true) →
    (∀ now,
      (d.session.idle = true →
        step d (.heartbeat now) = (.line (.ok none), d.put (d.session.refresh d.clock)) ∧
        (d.session.refresh d.clock).idle = true) ∧
      (d.session.idle = false → d.due (.heartbeat now) = true →
        Prod.Lex (· < ·) (· < ·) (step d (.heartbeat now)).2.session.backlog
          d.session.backlog)) ∧
    (c.session.queue.lines.length + 4 * c.session.handoff.length ≤ c.passes wait →
      d.session.idle = true) ∧
    ∀ n, (run c (wait.take n)).2.session.idle = true → d.session.idle = true := by
  intro c d hstarted hfree hwait
  have hawaited : Awaited c.session :=
    ⟨hstarted, by simpa [requestInFlight] using hfree, busy_run rfl past⟩
  obtain ⟨hlast, hless⟩ : Awaited d.session ∧ d.session.burden ≤ _ := hawaited.run hwait
  refine ⟨fun now => ⟨fun hidle => ?_, fun hbusy hdue => hlast.backlog_heartbeat hdue hbusy⟩, ?_, ?_⟩
  · obtain ⟨hstanding, hhandoff, hqueue, -⟩ := d.session.refresh_frame d.clock
    have hpending : (d.session.refresh d.clock).pending = d.session.pending :=
      congrArg Standing.pending hstanding
    have htick := heartbeat_of_idle hlast.started hidle d.clock now
    refine ⟨by rw [step, htick], ?_⟩
    rw [← hidle, idle, idle, requestInFlight, requestInFlight, hhandoff, hqueue, hpending]
  · intro henough
    rw [hlast.idle_iff]
    exact Nat.le_zero.mp (Nat.le_trans hless (Nat.le_of_eq (Nat.sub_eq_zero_of_le henough)))
  · intro n hidle
    have hparts := List.forall_mem_append.mp ((List.take_append_drop n wait).symm ▸ hwait)
    obtain ⟨hmiddle, -⟩ := hawaited.run hparts.1
    obtain ⟨-, hrest⟩ := hmiddle.run hparts.2
    have hsplit : d = (run (run c (wait.take n)).2 (wait.drop n)).2 := by
      rw [← congrArg Prod.snd (run_append c _ _), List.take_append_drop]
    rw [hmiddle.idle_iff] at hidle
    rw [hlast.idle_iff, hsplit]
    exact Nat.le_zero.mp (Nat.le_trans hrest (by omega))

def blankOutcome : Outcome :=
  ⟨"Bob", none, none, none⟩

/-- A session in a chat that fails at everything. A line waits, and an outcome. -/
def wreck : Scene Rehearsal :=
  (run ⟨1000, .fresh .nearby (.fresh [] [.send, .interact, .roster]) (.ofScript [])⟩
    [.start, .enqueue ["Hi."], .complete blankOutcome none]).2

/-- The first tick breaks off at the outcome, the second fails to say the line. -/
def vigil : List (Command Rehearsal) :=
  [.heartbeat none, .heartbeat none, .advance 2, .heartbeat none, .heartbeat none, .heartbeat none]

theorem vigil_ends :
    Prod.Lex (· < ·) (· < ·) (step wreck (.heartbeat none)).2.session.backlog
        wreck.session.backlog ∧
    (run wreck (vigil.take 1)).2.session.idle = false ∧
    (run wreck vigil).2.session.idle = true ∧
    step (run wreck vigil).2 (.heartbeat none) = (.line (.ok none),
      (run wreck vigil).2.put ((run wreck vigil).2.session.refresh (run wreck vigil).2.clock)) := by
  have hany := waiting_ends .nearby (Rehearsal.fresh [] [.send, .interact, .roster]) (.ofScript [])
    1000 [.start, .enqueue ["Hi."], .complete blankOutcome none]
  obtain ⟨hfirst, -⟩ := hany [] rfl rfl (by simp)
  obtain ⟨hlater, hrest, -⟩ := hany vigil rfl rfl (by decide)
  have hidle := hrest (by decide +kernel)
  exact ⟨(hfirst none).2 (by decide +kernel) (by decide +kernel), by decide +kernel, hidle,
    ((hlater none).1 hidle).1⟩

end Banter.Session
