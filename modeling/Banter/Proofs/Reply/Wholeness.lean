import Banter.Proofs.Reply.Absorption
import Banter.Proofs.Session.Passage
import Banter.Proofs.Text.Visible
import Banter.Rehearsal

/-!
An outcome is absorbed as a whole or not at all. What decides is whether its reply, without the
action spans, has something to see on it.
-/
namespace Banter.Reply

theorem addressMentions_empty (names : List String) : Text.addressMentions "" names = "" := by
  unfold Text.addressMentions
  rw [String.toList_empty, Text.addressInOrder_nil]

theorem prepareLines_of_blank {text : String} (s : Activity.Snapshot) (d : Draws)
    (h : ∀ c ∈ Text.dropSpans none text.toList, Text.isBlank c = true) :
    prepareLines text s d = ([], d) := by
  have hstripped : Text.stripRoleplay (some text) = "" := by
    have htrimmed : Text.stripRoleplayChars text.toList = [] := Text.trim_eq_nil_iff.mpr h
    unfold Text.stripRoleplay Text.given
    rw [Option.getD_some, htrimmed]
  unfold prepareLines
  rw [hstripped, addressMentions_empty]
  rfl

theorem prepareLines_ne_nil {text : String} (s : Activity.Snapshot) (d : Draws)
    (h : Text.Visible (Text.dropSpans none text.toList)) : (prepareLines text s d).1 ≠ [] := by
  have hcleaned : Text.Visible
      (Text.addressMentions (Text.stripRoleplay (some text)) s.activeParticipants).toList := by
    unfold Text.addressMentions Text.stripRoleplay
    rw [String.toList_ofList, String.toList_ofList]
    exact Text.visible_addressInOrder _ (Text.visible_trim.mpr h)
  exact Selection.limitParts_ne_nil (Text.segment_ne_nil hcleaned) _ _

variable {σ : Type} [Host σ]

/-- Ask a host for the emotes that lines call for, in the order of the lines. -/
def askEmotes (now : Float) (lines : List String) (host : σ) : σ :=
  (lines.filterMap fun line => Emote.detect (some line)).foldl
    (fun host emote =>
      (Host.perform now Emote.interaction [(Emote.interaction, Json.Value.text emote)] host).1)
    host

theorem performAll_host (now : Float) (lines : List String) (host : σ) :
    (performAll now lines host).1 = askEmotes now lines host := by
  induction lines generalizing host with
  | nil => rfl
  | cons line rest ih =>
    unfold performAll
    dsimp only
    rw [ih]
    unfold askEmotes Emote.performFor
    rw [List.filterMap_cons]
    cases Emote.detect (some line) with
    | none => rfl
    | some emote => rfl

theorem askEmotes_option (now : Float) (lines : List String) (host : Option σ) :
    askEmotes now lines host = host.map (askEmotes now lines) := by
  unfold askEmotes
  generalize lines.filterMap (fun line => Emote.detect (some line)) = emotes
  induction emotes generalizing host with
  | nil => cases host <;> rfl
  | cons emote rest ih =>
    rw [List.foldl_cons, ih]
    cases host <;> rfl

/-- Lines are queued, all of them, behind those that wait, and the host, if there is one, was asked
for their emotes. -/
def Speaks (now : Float) (q : Delivery.Queue) (host : Option σ)
    (r : Except Breach (Absorbed (Option σ))) : Prop :=
  ∃ lines draws notices, lines ≠ [] ∧
    r = .ok ⟨lines, { q with lines := q.lines ++ lines }, draws,
      host.map (askEmotes now lines), notices⟩

/-- Nothing is said, and nothing changes. -/
def Drops (q : Delivery.Queue) (d : Draws) (host : Option σ)
    (r : Except Breach (Absorbed (Option σ))) : Prop :=
  (∃ b, r = .error b) ∨ ∃ notices, r = .ok ⟨[], q, d, host, notices⟩

theorem not_drops_of_speaks {now : Float} {q : Delivery.Queue} {d : Draws} {host : Option σ}
    {r : Except Breach (Absorbed (Option σ))} (h : Speaks now q host r) : ¬ Drops q d host r := by
  obtain ⟨lines, draws, notices, hne, rfl⟩ := h
  rintro (⟨b, hb⟩ | ⟨ns, hns⟩)
  · cases hb
  · exact hne (congrArg Absorbed.lines (Except.ok.inj hns))

variable (now : Float) (s : Activity.Snapshot) {o : Outcome} (q : Delivery.Queue) (d : Draws)
  (host : Option σ)

theorem drops_of_stop {stop : Stop} (h : ofOutcome o = .error stop) :
    Drops q d host (absorb now s o q d host) := by
  unfold absorb
  rw [h]
  cases stop with
  | breach b => exact .inl ⟨b, rfl⟩
  | fault f => exact .inr ⟨_, rfl⟩

theorem drops_of_blank {reply : Reply} (h : ofOutcome o = .ok reply)
    (hb : ∀ c ∈ Text.dropSpans none reply.text.toList, Text.isBlank c = true) :
    Drops q d host (absorb now s o q d host) := by
  unfold absorb
  rw [h]
  dsimp only
  rw [prepareLines_of_blank s d hb]
  exact .inr ⟨_, rfl⟩

theorem speaks_of_visible {reply : Reply} (h : ofOutcome o = .ok reply)
    (hv : Text.Visible (Text.dropSpans none reply.text.toList)) :
    Speaks now q host (absorb now s o q d host) := by
  have hne := prepareLines_ne_nil s d hv
  have hbatch := batch_prepareLines reply.text s d
  unfold absorb
  rw [h]
  dsimp only
  generalize prepareLines reply.text s d = prepared at hne hbatch ⊢
  obtain ⟨lines, d'⟩ := prepared
  cases lines with
  | nil => exact absurd rfl hne
  | cons line rest =>
    refine ⟨line :: rest, d', (performAll now (line :: rest) host).2 ++
      [.queued (rest.length + 1) o.sender], hne, ?_⟩
    dsimp only at hbatch ⊢
    rw [performAll_host, askEmotes_option, Delivery.Queue.enqueue, hbatch]
    rfl

/-- An outcome is absorbed whole, with at least one line, or changes nothing. A reply does the
latter just if only white space stands outside its action spans. -/
theorem absorb_all_or_nothing (o : Outcome) :
    Xor (Speaks now q host (absorb now s o q d host)) (Drops q d host (absorb now s o q d host)) ∧
      (∀ reply, ofOutcome o = .ok reply →
        (Drops q d host (absorb now s o q d host) ↔
            ∀ c ∈ Text.dropSpans none reply.text.toList, Text.isBlank c = true) ∧
          (Drops q d host (absorb now s o q d host) → prepareLines reply.text s d = ([], d))) ∧
      ∀ (t : Session (Option σ)) (b : Breach) (rest : List Outcome) (n : Nat),
        t.absorb now o = .error b →
          Session.absorbAll now (o :: rest) n t = (.error b, { t with handoff := rest }) := by
  have hexclusive : Speaks now q host (absorb now s o q d host) →
      ¬ Drops q d host (absorb now s o q d host) := not_drops_of_speaks
  refine ⟨?_, fun reply hreply => ?_, ?_⟩
  · cases ho : ofOutcome o with
    | error stop =>
      have hdrops := drops_of_stop now s q d host ho
      exact .inr ⟨hdrops, fun hspeaks => hexclusive hspeaks hdrops⟩
    | ok reply =>
      by_cases hv : Text.Visible (Text.dropSpans none reply.text.toList)
      · have hspeaks := speaks_of_visible now s q d host ho hv
        exact .inl ⟨hspeaks, hexclusive hspeaks⟩
      · have hdrops := drops_of_blank now s q d host ho (Text.not_visible_iff.mp hv)
        exact .inr ⟨hdrops, fun hspeaks => hexclusive hspeaks hdrops⟩
  · have hblank : Drops q d host (absorb now s o q d host) →
        ∀ c ∈ Text.dropSpans none reply.text.toList, Text.isBlank c = true := by
      intro hdrops
      rw [← Text.not_visible_iff]
      exact fun hv => hexclusive (speaks_of_visible now s q d host hreply hv) hdrops
    exact ⟨⟨hblank, drops_of_blank now s q d host hreply⟩,
      fun hdrops => prepareLines_of_blank s d (hblank hdrops)⟩
  · intro t b rest n hb
    unfold Session.absorbAll
    rw [hb]

/-- A session that no one has talked to, in a chat that performs nothing. -/
def silent : Session (Option Rehearsal) :=
  .fresh .nearby (some (.fresh [] [.interact])) (.ofScript [])

/-- A nod is dropped, a greeting with a nod is said, and an outcome without a body breaks off. -/
theorem absorb_while_silent :
    Drops silent.queue silent.draws silent.host
        (absorb 1000 silent.tracker.snapshot (.saying "*nods*") silent.queue silent.draws
          silent.host) ∧
      Speaks 1000 silent.queue silent.host
        (absorb 1000 silent.tracker.snapshot (.saying "*nods* Hello.") silent.queue silent.draws
          silent.host) ∧
      Session.absorbAll 1000 [⟨"Bob", none, none, none⟩, .saying "Bye."] 0 silent =
        (.error .noBody, { silent with handoff := [.saying "Bye."] }) := by
  have hnod : ofOutcome (.saying "*nods*") = .ok ⟨"*nods*", noAction⟩ := by decide +kernel
  have hgreeting : ofOutcome (.saying "*nods* Hello.") = .ok ⟨"*nods* Hello.", noAction⟩ := by
    decide +kernel
  have hleft : (Text.dropSpans none "*nods*".toList).all Text.isBlank = true := by decide +kernel
  have hleft' : (Text.dropSpans none "*nods* Hello.".toList).all Text.isBlank = false := by
    decide +kernel
  obtain ⟨-, hblank, -⟩ := absorb_all_or_nothing 1000 silent.tracker.snapshot silent.queue
    silent.draws silent.host (.saying "*nods*")
  obtain ⟨hone, hblank', -⟩ := absorb_all_or_nothing 1000 silent.tracker.snapshot
    silent.queue silent.draws silent.host (.saying "*nods* Hello.")
  refine ⟨(hblank _ hnod).1.mpr (List.all_eq_true.mp hleft), ?_, ?_⟩
  · obtain ⟨hspeaks, -⟩ | ⟨hdrops, -⟩ := hone
    · exact hspeaks
    · have hall := List.all_eq_true.mpr ((hblank' _ hgreeting).1.mp hdrops)
      rw [hleft'] at hall
      cases hall
  · obtain ⟨-, -, hbroken⟩ := absorb_all_or_nothing 1000 silent.tracker.snapshot silent.queue
      silent.draws silent.host ⟨"Bob", none, none, none⟩
    exact hbroken silent .noBody [.saying "Bye."] 0 rfl

end Banter.Reply
