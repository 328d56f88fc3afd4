import Banter.Proofs.Reply.Breach
import Banter.Proofs.Session.Passage
import Banter.Proofs.Text.Trim
import Banter.Rehearsal

/-! Ticks that go through, and ticks that break off half way. -/
namespace Banter.Session

variable {σ : Type} [Host σ]

theorem absorb_error_iff (s : Session σ) (clock : Float) {o : Outcome} :
    (∃ b, s.absorb clock o = .error b) ↔ o.Breaks := by
  rw [← Reply.absorb_error_iff clock s.tracker.snapshot s.queue s.draws s.host]
  unfold absorb
  cases Reply.absorb clock s.tracker.snapshot o s.queue s.draws s.host <;> simp

theorem absorbAll_of_whole {os : List Outcome} (h : ∀ o ∈ os, ¬ o.Breaks) (clock : Float)
    (n : Nat) (s : Session σ) :
    (absorbAll clock os n s).1 = .ok (n + os.length) ∧ (absorbAll clock os n s).2.handoff = [] := by
  induction os generalizing n s with
  | nil => exact ⟨rfl, rfl⟩
  | cons o rest ih =>
    unfold absorbAll
    cases ha : s.absorb clock o with
    | error b => exact absurd ((absorb_error_iff s clock).mp ⟨b, ha⟩) (h o List.mem_cons_self)
    | ok t =>
      obtain ⟨hcount, hnone⟩ := ih (fun p hp => h p (List.mem_cons_of_mem o hp)) (n + 1) t
      refine ⟨?_, hnone⟩
      rw [hcount, List.length_cons]
      congr 1
      omega

theorem absorbAll_of_broken {before : List Outcome} {o : Outcome}
    (h : ∀ p ∈ before, ¬ p.Breaks) (ho : o.Breaks) (after : List Outcome)
    (clock : Float) (n : Nat) (s : Session σ) :
    ∃ b, (absorbAll clock (before ++ o :: after) n s).1 = .error b ∧
      (absorbAll clock (before ++ o :: after) n s).2.handoff = after := by
  induction before generalizing n s with
  | nil =>
    obtain ⟨b, hb⟩ := (absorb_error_iff s clock).mpr ho
    refine ⟨b, ?_⟩
    simp only [List.nil_append, absorbAll, hb, and_self]
  | cons p rest ih =>
    rw [List.cons_append]
    unfold absorbAll
    cases ha : s.absorb clock p with
    | error b => exact absurd ((absorb_error_iff s clock).mp ⟨b, ha⟩) (h p List.mem_cons_self)
    | ok t => exact ih (fun q hq => h q (List.mem_cons_of_mem p hq)) (n + 1) t

theorem heartbeat_of_ok {s : Session σ} {clock : Float} {n : Nat} (now : Option Float)
    (hs : s.started = true) (h : ((s.refresh clock).processCompletions clock).1 = .ok n) :
    s.heartbeat clock now =
      (.ok (((s.refresh clock).processCompletions clock).2.drain clock now).1,
        (((s.refresh clock).processCompletions clock).2.drain clock now).2) := by
  unfold heartbeat
  rw [hs]
  generalize (s.refresh clock).processCompletions clock = r at h ⊢
  obtain ⟨result, t⟩ := r
  obtain rfl : result = .ok n := h
  rfl

theorem heartbeat_of_error {s : Session σ} {clock : Float} {b : Breach} (now : Option Float)
    (hs : s.started = true) (h : ((s.refresh clock).processCompletions clock).1 = .error b) :
    s.heartbeat clock now = (.error b, ((s.refresh clock).processCompletions clock).2) := by
  unfold heartbeat
  rw [hs]
  generalize (s.refresh clock).processCompletions clock = r at h ⊢
  obtain ⟨result, t⟩ := r
  obtain rfl : result = .error b := h
  rfl

theorem processCompletions_refresh (s : Session σ) (clock : Float) :
    (s.refresh clock).processCompletions clock =
      absorbAll clock s.handoff 0 (s.refresh clock) := by
  obtain ⟨-, hhandoff, -⟩ := s.refresh_frame clock
  rw [processCompletions, hhandoff]

/-- Absorbing breaks off just where an integer in a body is too long or a body is missing. A tick
ends there, and what waits behind keeps waiting. -/
theorem tick_breaks_iff (s : Session σ) (clock : Float) (now : Option Float)
    (hs : s.started = true) :
    (∀ o, (∃ b, s.absorb clock o = .error b) ↔ o.Breaks) ∧
    ((∀ o ∈ s.handoff, ¬ o.Breaks) →
      let t := ((s.refresh clock).processCompletions clock).2
      (s.processCompletions clock).1 = .ok s.handoff.length ∧
        (s.processCompletions clock).2.handoff = [] ∧ t.handoff = [] ∧
        s.heartbeat clock now = (.ok (t.drain clock now).1, (t.drain clock now).2)) ∧
    (∀ before o after, s.handoff = before ++ o :: after → (∀ p ∈ before, ¬ p.Breaks) → o.Breaks →
      let t := ((s.refresh clock).processCompletions clock).2
      (∃ b, (s.processCompletions clock).1 = .error b) ∧
        (s.processCompletions clock).2.handoff = after ∧ t.handoff = after ∧
        ∃ b, s.heartbeat clock now = (.error b, t)) := by
  have hticked := s.processCompletions_refresh clock
  refine ⟨fun _ => s.absorb_error_iff clock, ?_, ?_⟩
  · intro h t
    obtain ⟨hcount, hnone⟩ := absorbAll_of_whole h clock 0 s
    obtain ⟨hall, hleft⟩ := absorbAll_of_whole h clock 0 (s.refresh clock)
    rw [Nat.zero_add] at hcount
    rw [← hticked] at hall hleft
    exact ⟨hcount, hnone, hleft, heartbeat_of_ok now hs hall⟩
  · intro before o after hsplit hb ho t
    obtain ⟨b, herror, hrest⟩ := absorbAll_of_broken hb ho after clock 0 s
    obtain ⟨b', hbroken, hleft⟩ :=
      absorbAll_of_broken hb ho after clock 0 (s.refresh clock)
    rw [← hsplit] at herror hrest hbroken hleft
    rw [← hticked] at hbroken hleft
    exact ⟨⟨b, herror⟩, hrest, hleft, b', heartbeat_of_error now hs hbroken⟩

/-- An array of one integer with one digit more than can be taken. -/
def overgrown : List Char :=
  '[' :: (List.replicate (Json.digitLimit + 1) '1' ++ [']'])

theorem overlong_overgrown : Json.Overlong (Json.digitLimit + 1) .item (Text.trim overgrown) := by
  have hdigits : Json.Whole (List.replicate (Json.digitLimit + 1) '1') := by
    refine ⟨⟨List.replicate_succ_ne_nil, ?_⟩, ?_⟩
    · intro c hc
      rw [List.eq_of_mem_replicate hc]
      rfl
    · rw [List.replicate_succ, List.head?_cons]
      intro h
      cases h
  have hvalue : Json.Overlong (Json.digitLimit + 1) .value
      (List.replicate (Json.digitLimit + 1) '1' ++ [']']) :=
    .unsigned hdigits List.length_replicate (Nat.lt_succ_self _)
      (Json.terse_cons [] rfl (by decide) (by decide) (by decide))
  have hnone : Json.Blank [] := fun _ hc => absurd hc List.not_mem_nil
  rw [overgrown, Text.trim_enclosed _ rfl rfl]
  exact .item (a := []) hnone (.array (.thisItem (.item (a := []) hnone hvalue)))

def tooMuch : Outcome :=
  ⟨"Bob", some 200, some (.ofList overgrown), none⟩

theorem tooMuch_breaks : tooMuch.Breaks := by
  refine ⟨rfl, .inl ⟨rfl, Json.digitLimit + 1, ?_⟩⟩
  rw [tooMuch, Option.getD_some, String.toList_ofList]
  exact overlong_overgrown

/-- A started session with three outcomes that wait, the second of them too much. -/
def burdened : Session Rehearsal :=
  let s := (fresh .nearby (Rehearsal.fresh [] []) (.ofScript [])).start
  ((s.complete (.saying "Hello.") none).complete tooMuch none).complete (.saying "Bye.") none

/-- The tick breaks off at the second outcome, and the third keeps waiting. -/
theorem tick_of_burdened : burdened.started = true ∧
    (∃ b, (burdened.heartbeat 1000 none).1 = .error b) ∧
    (burdened.heartbeat 1000 none).2.handoff = [.saying "Bye."] := by
  -- Said of any such session, so that no session is played while terms are compared.
  have hany : ∀ s : Session Rehearsal, s.started = true →
      s.handoff = [.saying "Hello."] ++ tooMuch :: [.saying "Bye."] →
      (s.absorb 1000 (.saying "Hello.")).toBool = true →
      s.started = true ∧ (∃ b, (s.heartbeat 1000 none).1 = .error b) ∧
        (s.heartbeat 1000 none).2.handoff = [.saying "Bye."] := by
    intro s hstarted hsplit hok
    obtain ⟨hiff, -, hbroken⟩ := tick_breaks_iff s 1000 none hstarted
    have hbefore : ∀ p ∈ [Outcome.saying "Hello."], ¬ p.Breaks := by
      intro p hp
      rw [List.mem_singleton.mp hp, ← hiff]
      rintro ⟨b, hb⟩
      rw [hb] at hok
      cases hok
    obtain ⟨-, -, hleft, b, hb⟩ := hbroken _ _ _ hsplit hbefore tooMuch_breaks
    rw [hb]
    exact ⟨hstarted, ⟨b, rfl⟩, hleft⟩
  exact hany burdened rfl rfl (by decide +kernel)

end Banter.Session
