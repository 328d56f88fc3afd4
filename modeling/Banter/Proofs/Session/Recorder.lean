import Banter.Proofs.Session.Lasting

/-!
Hosts that keep a record. Whatever record a host keeps of what it is asked to say and do, events
tell it.
-/
namespace Banter

/-- A record that a host keeps of the calls it gets, failing or not. -/
structure Recorder (σ α : Type) [Host σ] where
  record : σ → List α
  /-- The condition under which the record is kept. -/
  keeps : σ → Prop
  line : String → List α
  act : String → List (String × Json.Value) → List α
  sendLine (now : Float) (text : String) {h : σ} (hk : keeps h) :
    keeps (Host.sendLine now text h).1 ∧
      record (Host.sendLine now text h).1 = record h ++ line text
  perform (now : Float) (name : String) (args : List (String × Json.Value)) {h : σ}
    (hk : keeps h) : keeps (Host.perform now name args h).1 ∧
      record (Host.perform now name args h).1 = record h ++ act name args
  participants (now : Float) {h : σ} (hk : keeps h) :
    keeps (Host.participants now h).1 ∧ record (Host.participants now h).1 = record h

namespace Recorder

variable {σ α : Type} [Host σ] (R : Recorder σ α)

/-- What the emote of a line adds to the record. -/
def performance (line : String) : List α :=
  match Emote.detect (some line) with
  | none => []
  | some emote => R.act Emote.interaction [(Emote.interaction, Json.Value.text emote)]

def told : Session.Event → List α
  | .absorbed _ lines => lines.flatMap R.performance
  | .said line => R.line line
  | _ => []

/-- The record is what it was, and what the events tell. -/
structure Told (earlier : List α) (past : List Session.Event) (s : Session σ) : Prop where
  keeps : R.keeps s.host
  record : R.record s.host = earlier ++ past.flatMap R.told

/-- A change of the host that the record does not show. -/
def Ignores (change : σ → σ) : Prop :=
  ∀ {h : σ}, R.keeps h → R.keeps (change h) ∧ R.record (change h) = R.record h

variable {R} {earlier : List α} {past : List Session.Event} {s t : Session σ}

theorem performFor (now : Float) (line : String) {h : σ} (hk : R.keeps h) :
    R.keeps (Emote.performFor now line h).2.1 ∧
      R.record (Emote.performFor now line h).2.1 = R.record h ++ R.performance line := by
  unfold Emote.performFor performance
  cases Emote.detect (some line) with
  | none => exact ⟨hk, (List.append_nil _).symm⟩
  | some emote => exact R.perform now _ _ hk

theorem performAll (now : Float) (lines : List String) {h : σ} (hk : R.keeps h) :
    R.keeps (Reply.performAll now lines h).1 ∧
      R.record (Reply.performAll now lines h).1 = R.record h ++ lines.flatMap R.performance := by
  induction lines generalizing h with
  | nil => exact ⟨hk, (List.append_nil _).symm⟩
  | cons line rest ih =>
    obtain ⟨hkept, hfirst⟩ := R.performFor now line hk
    obtain ⟨hkeeps, hmore⟩ := ih hkept
    unfold Reply.performAll
    refine ⟨hkeeps, ?_⟩
    rw [hmore, hfirst, List.flatMap_cons, List.append_assoc]

theorem Told.congr (h : R.Told earlier past s) (hk : R.keeps t.host)
    (hr : R.record t.host = R.record s.host) : R.Told earlier past t :=
  ⟨hk, hr.trans h.record⟩

theorem Told.snoc {e : Session.Event} (h : R.Told earlier past s) (hk : R.keeps t.host)
    (hr : R.record t.host = R.record s.host ++ R.told e) :
    R.Told earlier (past ++ [e]) t := by
  refine ⟨hk, ?_⟩
  rw [hr, h.record, List.flatMap_append, List.flatMap_singleton, List.append_assoc]

theorem Told.silent {e : Session.Event} (h : R.Told earlier past s) (he : R.told e = [])
    (hh : t.host = s.host) : R.Told earlier (past ++ [e]) t := by
  refine h.snoc (hh ▸ h.keeps) ?_
  rw [hh, he, List.append_nil]

theorem told_lasting (R : Recorder σ α) (earlier : List α) :
    Session.Lasting (R.Told earlier) where
  note _ h := ⟨h.keeps, h.record⟩
  refresh {_ s} clock h := by
    obtain ⟨-, -, -, hhost⟩ := s.refresh_frame clock
    obtain ⟨hk, hr⟩ := R.participants clock h.keeps
    rw [← hhost] at hk hr
    exact h.congr hk hr
  hear {_ s} clock e h := by
    obtain ⟨-, -, hhost, -⟩ := s.hear_frame clock e
    cases (s.hear clock e).1.ticket with
    | none =>
      rw [Option.toList_none, List.map_nil, List.append_nil]
      exact h.congr (hhost ▸ h.keeps) (by rw [hhost])
    | some ticket => exact h.silent rfl hhost
  complete _ _ h := h.silent rfl rfl
  enqueue _ h := h.silent rfl rfl
  absorbed {_ s clock _ _ a} ha h := by
    obtain ⟨hk, hr⟩ := R.performAll clock a.lines h.keeps
    rw [← Reply.absorb_host ha] at hk hr
    exact h.snoc hk hr
  broken _ h := h.silent rfl rfl
  said {_ _ clock _ line _} _ h := by
    obtain ⟨hk, hr⟩ := R.sendLine clock line h.keeps
    exact h.snoc hk hr
  settled _ h := ⟨h.keeps, h.record⟩

/-- At every point of a run the record ends with what events tell since the last forgetting. -/
theorem told_at_points (R : Recorder σ α) {c : Session.Scene σ}
    {commands : List (Session.Command σ)} (hk : R.keeps c.session.host)
    (hc : ∀ change, .changeHost change ∈ commands → R.Ignores change) :
    ∀ p ∈ Session.points c [] commands,
      ∃ earlier, R.record p.session.host = earlier ++ p.past.flatMap R.told := by
  intro p hp
  have hanew : ∀ {s t : Session σ}, R.keeps s.host → t.host = s.host →
      ∃ earlier, R.Told earlier [] t := by
    intro s t hs ht
    exact ⟨R.record s.host, ht ▸ hs, by rw [ht, List.flatMap_nil, List.append_nil]⟩
  have hforgets : ∀ past (s : Session σ), (∃ earlier, R.Told earlier past s) →
      (∃ earlier, R.Told earlier [] s.start) ∧ (∃ earlier, R.Told earlier [] s.stop) ∧
        ∃ earlier, R.Told earlier [] s.reset := by
    rintro past s ⟨earlier, hs⟩
    exact ⟨hanew hs.keeps rfl, hanew hs.keeps rfl, hanew hs.keeps rfl⟩
  have hchanges : ∀ change, .changeHost change ∈ commands → ∀ past (s : Session σ),
      (∃ earlier, R.Told earlier past s) →
        ∃ earlier, R.Told earlier past { s with host := change s.host } := by
    rintro change hm past s ⟨earlier, hs⟩
    obtain ⟨hkept, hsame⟩ := hc change hm hs.keeps
    exact ⟨earlier, hs.congr hkept hsame⟩
  have hlasting := Session.Lasting.exists_of_forall R.told_lasting
  obtain ⟨earlier, h⟩ := hlasting.points hforgets hchanges (hanew hk rfl) p hp
  exact ⟨earlier, h.record⟩

end Recorder

/-- A host that is overheard: the lines that it gets are written down, whether or not it fails. -/
structure Overheard (σ : Type) where
  host : σ
  lines : List String

namespace Overheard

variable {σ : Type} [Host σ]

instance : Host (Overheard σ) where
  sendLine now line o :=
    let (host, failed) := Host.sendLine now line o.host
    (⟨host, o.lines ++ [line]⟩, failed)
  perform now name args o :=
    let (host, failed) := Host.perform now name args o.host
    (⟨host, o.lines⟩, failed)
  participants now o :=
    let (host, names) := Host.participants now o.host
    (⟨host, o.lines⟩, names)

/-- Any host can be overheard. -/
def recorder : Recorder (Overheard σ) String where
  record := lines
  keeps _ := True
  line text := [text]
  act _ _ := []
  sendLine _ _ _ _ := ⟨trivial, rfl⟩
  perform _ _ _ _ _ := ⟨trivial, (List.append_nil _).symm⟩
  participants _ _ _ := ⟨trivial, rfl⟩

end Overheard
end Banter
