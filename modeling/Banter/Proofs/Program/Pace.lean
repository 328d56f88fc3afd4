import Banter.Proofs.Program.Farewell
import Banter.Proofs.Settings.Heartbeat

/-!
The program sleeps for the time that its settings give, between two ticks and between two looks for
its end. This time is positive unless it was given as what is no number.
-/
namespace Banter.Program

inductive Reached (first : State) : State → Prop where
  | start : Reached first first
  | step {s next : State} : Reached first s → s.step = .inl next → Reached first next

theorem Reached.settings {settings : Settings} {script : Script} {s : State}
    (h : Reached (opening settings script) s) : s.session.settings = settings := by
  have hunderway : ∃ past, Underway (opening settings script).session past s := by
    induction h with
    | start => exact ⟨[], underway_opening settings script⟩
    | step _ hs ih =>
      obtain ⟨past, hpast⟩ := ih
      exact ⟨_, hpast.step hs⟩
  obtain ⟨past, hpast⟩ := hunderway
  exact hpast.settings

/-- The next tick comes a pause after a tick, and the next look a pause after a look that found
something left. Nothing else moves a tick. -/
def Sleeps (pause : Float) (s next : State) : Prop :=
  match s.nextEvent with
  | (_, .tick) => next.beat = s.beat + pause
  | (time, .look) => next.beat = s.beat ∧ next.phase = .looking (time + pause)
  | _ => next.beat = s.beat

theorem State.beat_arrive (s : State) (f : Flight) (others : List Flight) :
    (s.arrive f others).beat = s.beat := by
  unfold arrive
  dsimp only
  split
  · rfl
  · rfl

theorem State.beat_send (s : State) (time : Float) (t : Ticket) :
    (s.send time t).beat = s.beat := by
  unfold send
  split_ifs
  · rfl
  · rfl

theorem State.beat_hear (s : State) (time : Float) (raw : String) :
    (s.hear time raw).beat = s.beat := by
  unfold hear
  split
  · rfl
  · dsimp only
    split
    · rfl
    · exact State.beat_send _ _ _

theorem State.sleeps {s next : State} (h : s.step = .inl next) :
    Sleeps s.session.settings.heartbeat s next := by
  unfold State.step at h
  unfold Sleeps
  cases he : s.nextEvent with
  | mk time e =>
    rw [he] at h
    cases e with
    | tick =>
      obtain rfl := Sum.inl.inj h
      rfl
    | arrival f others =>
      obtain rfl := Sum.inl.inj h
      exact s.beat_arrive f others
    | line raw rest eof =>
      obtain rfl := Sum.inl.inj h
      exact State.beat_hear _ time raw
    | endOfInput =>
      obtain rfl := Sum.inl.inj h
      rfl
    | look =>
      dsimp only at h
      split_ifs at h
      obtain rfl := Sum.inl.inj h
      exact ⟨rfl, rfl⟩

/-- A program with accepted settings sleeps for a positive time, each time, unless the time was
given as what is no number. -/
theorem sleeps_positive_iff {src : Sources} {settings : Settings}
    (h : Settings.ofSources src = .ok settings) :
    (0.0 < settings.heartbeat ↔
      ¬ Validation.GivesNoNumber (src.value .heartbeat (.float 0.6))) ∧
    ∀ (script : Script) (s next : State), Reached (opening settings script) s →
      s.step = .inl next → Sleeps settings.heartbeat s next := by
  refine ⟨Settings.heartbeat_pos_iff h, fun script s next hreached hs => ?_⟩
  rw [← hreached.settings]
  exact State.sleeps hs

/-- Arguments that give the time as no number. -/
def sleepless : Sources := ⟨[("heartbeat_seconds", .text " -NaN")], [], ""⟩

def silence : Script := ⟨.ofScript [], [], 1.0, []⟩

theorem step_silence (settings : Settings) :
    (opening settings silence).step = .inl (opening settings silence).tick := by
  have hfirst : (0.0 : Float) ≤ 1.0 := by decide
  simp [State.step, State.nextEvent, opening, silence, nextFlight, earlier, Phase.event, hfirst]

/-- The first sleep is not for a positive time, and the second tick comes at no time at all. -/
theorem sleeps_of_sleepless : ∃ settings, Settings.ofSources sleepless = .ok settings ∧
    ¬ 0.0 < settings.heartbeat ∧
    Sleeps settings.heartbeat (opening settings silence) (opening settings silence).tick := by
  have hread : (Settings.ofSources sleepless).toOption.map Settings.enabled = some false := by
    decide +kernel
  obtain ⟨settings, haccepted, -⟩ := Settings.exists_ofSources_eq_ok hread
  obtain ⟨hpositive, hsleeps⟩ := sleeps_positive_iff haccepted
  have hgiven : Validation.GivesNoNumber (sleepless.value .heartbeat (.float 0.6)) := by
    have hvalue : sleepless.value .heartbeat (.float 0.6) = .text " -NaN" := by rfl
    have hword : Decimal.NamesNoNumber (Validation.trimSpacing " -NaN".toList) := by rfl
    rw [hvalue]
    exact ⟨" -NaN".toList, by rfl, .inl hword⟩
  exact ⟨settings, haccepted, fun hpos => hpositive.mp hpos hgiven,
    hsleeps silence _ _ .start (step_silence settings)⟩

end Banter.Program
