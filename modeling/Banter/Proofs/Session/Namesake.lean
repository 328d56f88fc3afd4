import Banter.Proofs.Session.Admission
import Banter.Proofs.Session.Company
import Banter.Proofs.Text.Lower

/-!
Names that contain the bot's. Upper and lower case do not tell them apart from it, but the form of a
sigma may, which depends on what stands around the bot's name in them.
-/
namespace Banter

namespace Activity.Tracker

variable {τ : Type}

/-- Is the name in the roster or in the ledger? -/
def Knows (t : Tracker τ) (name : String) : Prop :=
  name ∈ t.roster ∨ t.ledger.Knows name

/-- None of those known goes by the bot's name. -/
def Discerning (t : Tracker τ) : Prop :=
  ∀ name, t.Knows name → isSelfName (some name) t.botName = false

theorem discerning_fresh (botName : String) : (fresh botName : Tracker τ).Discerning := by
  intro name h
  simp [Knows, Ledger.Knows, fresh, Ledger.empty] at h

namespace Discerning

variable {t : Tracker τ}

theorem congr {u : Tracker τ} (h : t.Discerning) (hn : u.botName = t.botName)
    (hr : u.roster = t.roster) (hl : u.ledger = t.ledger) : u.Discerning := by
  intro name hname
  rw [Knows, hr, hl] at hname
  rw [hn]
  exact h name hname

theorem interaction (h : t.Discerning) {name : String} (hcounts : t.counts (some name) = true) :
    (t.recordInteraction (some name)).Discerning := by
  unfold recordInteraction
  dsimp only
  rw [if_pos hcounts]
  intro partner hpartner
  obtain hroster | hledger := hpartner
  · exact h partner (.inl hroster)
  · obtain hold | rfl := hledger.of_record
    · exact h partner (.inr hold)
    · exact ((t.counts_some partner).mp hcounts).2

theorem updated (h : t.Discerning) (names : List (Option String)) :
    (t.updateRoster names).Discerning := by
  intro name hname
  obtain hroster | hledger := hname
  · obtain ⟨entry, hentry, rfl⟩ := List.mem_filterMap.mp (mem_rosterOf.mp hroster)
    exact ((t.counts_some name).mp (List.mem_filter.mp hentry).2).2
  · exact h name (.inr hledger)

end Discerning
end Activity.Tracker

theorem isSelfName_iff_settled {botName : String} (h : botName ≠ "") :
    (∀ before after, isSelfName (some (before ++ botName ++ after)) botName = true) ↔
      Text.Settled botName.toList := by
  rw [← Text.lower_infix_iff_settled]
  constructor
  · intro hall before after
    have hself := (isSelfName_iff _ _).mp (hall (.ofList before) (.ofList after))
    simpa using hself.2.2
  · intro hall before after
    refine (isSelfName_iff _ _).mpr ⟨?_, h, ?_⟩
    · simp [h]
    · simpa using hall before.toList after.toList

namespace Session

variable {σ : Type}

/-- A sender is never answered, and nothing tells of him. -/
structure Unnoticed (s : Session σ) (name : String) : Prop where
  unanswered : ∀ now e, e.sender = name → (s.hear now e).1.ticket = none
  unknown : ¬ s.tracker.Knows name

variable [Host σ]

theorem discerning_lasting : Lasting fun _ (s : Session σ) => s.tracker.Discerning where
  note _ h := h
  refresh {_ s} clock h := by
    unfold refresh
    split
    · exact h
    · exact h.updated _
  hear {_ s} clock e h := by
    obtain ⟨-, window, htracker⟩ | ⟨ticket, -, hcounts, htracker, -⟩ := s.hear_company clock e
    · rw [htracker]
      exact h.congr rfl rfl rfl
    · have hactive : (s.tracker.recordActivity clock).Discerning := h.congr rfl rfl rfl
      rw [htracker]
      exact hactive.interaction hcounts
  complete _ _ h := h
  enqueue _ h := h
  absorbed _ h := h
  broken _ h := h
  said _ h := h
  settled _ h := h

theorem Met.discerning {start : Scene σ} {commands : List (Command σ)} {s : Session σ}
    (h : Met start commands s) (hstart : start.session.tracker.Discerning) :
    s.tracker.Discerning := by
  have hrun : ∀ commands (c : Scene σ), c.session.tracker.Discerning →
      (run c commands).2.session.tracker.Discerning := by
    intro commands
    induction commands with
    | nil => exact fun c hc => hc
    | cons command rest ih =>
      intro c hc
      refine ih (step c command).2 (discerning_lasting.kept ?_ (fun _ _ hs => hs) hc command)
      intro s hs
      have hnobody := Activity.Tracker.discerning_fresh (τ := Float) s.tracker.botName
      exact ⟨hnobody, hnobody, hnobody⟩
  cases h with
  | after => exact hrun commands start hstart
  | inside hm => exact discerning_lasting.inside (fun _ _ hs => hs) (hrun _ start hstart) hm

theorem Met.unnoticed {settings : Settings} {start : Scene σ} {commands : List (Command σ)}
    {s : Session σ} (h : Met start commands s) (hequipped : Equipped settings start.session)
    (hstart : start.session.tracker.Discerning) {name : String}
    (hself : isSelfName (some name) settings.botName = true) : Unnoticed s name := by
  have hname : s.tracker.botName = settings.botName := (h.equipped hequipped).botName
  constructor
  · rintro now e rfl
    obtain ⟨hnone, -⟩ | ⟨ticket, -, hcounts, -⟩ := s.hear_company now e
    · exact hnone
    · have hother : isSelfName (some e.sender) s.tracker.botName = false :=
        ((Activity.Tracker.counts_some _ _).mp hcounts).2
      rw [hname, hself] at hother
      cases hother
  · intro hknown
    have hother := h.discerning hstart name hknown
    rw [hname, hself] at hother
    cases hother

theorem knows_of_refresh (settings : Settings) (draws : Draws) (clock : Float) {name : String}
    (hname : name ≠ "") (hother : isSelfName (some name) settings.botName = false) :
    ((fresh settings (Rehearsal.fresh [some name] []) draws).refresh clock).tracker.Knows name := by
  have hcounts : (Activity.Tracker.fresh settings.botName : Activity.Tracker Float).counts
      (some name) = true := (Activity.Tracker.counts_some _ _).mpr ⟨hname, hother⟩
  have hkept : [some name].filter
      (Activity.Tracker.fresh settings.botName : Activity.Tracker Float).counts = [some name] :=
    List.filter_cons_of_pos hcounts
  left
  change name ∈ Activity.rosterOf (([some name].filter
    (Activity.Tracker.fresh settings.botName : Activity.Tracker Float).counts).filterMap id)
  rw [hkept, Activity.mem_rosterOf]
  exact List.mem_singleton_self name

/-- All names that contain the bot's are taken for it, never answered and never known to the
tracker, just if the form of each capital sigma in it is settled there. -/
theorem namesakes_recognised_iff_settled (settings : Settings) (h : settings.botName ≠ "") :
    ((∀ before after,
        isSelfName (some (before ++ settings.botName ++ after)) settings.botName = true) ↔
      Text.Settled settings.botName.toList) ∧
    ((∀ {σ : Type} [Host σ] (host : σ) (draws : Draws) (clock : Float)
        (commands : List (Command σ)) (s : Session σ),
        Met ⟨clock, .fresh settings host draws⟩ commands s →
        ∀ before after, Unnoticed s (before ++ settings.botName ++ after)) ↔
      Text.Settled settings.botName.toList) := by
  have hnames := isSelfName_iff_settled h
  refine ⟨hnames, ?_⟩
  rw [← hnames]
  constructor
  · -- A host that reports such a name gets it into the roster, unless it is recognised.
    intro hunnoticed before after
    by_contra hself
    have hnamed : before ++ settings.botName ++ after ≠ "" := by simp [h]
    have hmet : Met ⟨0, .fresh settings
        (Rehearsal.fresh [some (before ++ settings.botName ++ after)] []) (.ofScript [])⟩
        [.refresh] _ := .after [.refresh]
    exact (hunnoticed _ _ _ _ _ hmet before after).unknown
      (knows_of_refresh settings (.ofScript []) 0 hnamed (Bool.eq_false_iff.mpr hself))
  · intro hself σ _ host draws clock commands s hs before after
    exact hs.unnoticed (.fresh settings host draws false)
      (Activity.Tracker.discerning_fresh settings.botName) (hself before after)

/-- The name ΑΣ ends in a sigma that is not final any more where it goes on. A name without a
capital sigma is always recognised. -/
theorem namesakes_of_sigma :
    (¬ ∀ before after, isSelfName (some (before ++ "ΑΣ" ++ after)) "ΑΣ" = true) ∧
    isSelfName (some "ΑΣΑ") "ΑΣ" = false ∧
    ∀ before after, isSelfName (some (before ++ "troll" ++ after)) "troll" = true := by
  have hopen : ¬ Text.Settled "ΑΣ".toList := by
    intro h
    obtain ⟨-, hlast⟩ := h ['Α'] [] rfl
    simpa using hlast (by decide)
  have hgreek := (namesakes_recognised_iff_settled { Settings.nearby with botName := "ΑΣ" }
    (by decide)).1
  have hlatin := (namesakes_recognised_iff_settled .nearby (by decide)).1
  exact ⟨fun hall => hopen (hgreek.mp hall), by decide,
    hlatin.mpr (Text.settled_of_not_mem (by decide))⟩

end Session
end Banter
