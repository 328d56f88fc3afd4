import Banter.Proofs.Json.Lone
import Banter.Proofs.Json.Member
import Banter.Proofs.Reply.Breach
import Banter.Proofs.Text.Visible

/-!
The format of replies: which outcomes carry one, and what the first flaw of any other is. It is told
in terms of how JSON is spelled, without the reader.
-/
namespace Banter

open Banter.Text (CodePoint)

namespace Reply

open Json (Value Spells FirstMembers LastGiven NeverGiven assignAll)

def textKey : List CodePoint := CodePoint.ofString "text"

def actionKey : List CodePoint := CodePoint.ofString "action"

/-- The action that members give: none if it is missing, null or a blank string, and else what is
given, as running text and trimmed. -/
inductive ActionGiven (fs : Validation.Fields) : String → Prop
  | missing (h : NeverGiven fs actionKey) : ActionGiven fs "NONE"
  | null (h : LastGiven fs actionKey .null) : ActionGiven fs "NONE"
  | blank {s : List CodePoint} (h : LastGiven fs actionKey (.str s))
    (hb : ∀ p ∈ s, Text.isBlank p.toChar = true) : ActionGiven fs "NONE"
  | shown {v : Value} (h : LastGiven fs actionKey v) (hnull : v ≠ .null)
    (hv : ∀ s, v = .str s → ∃ p ∈ s, Text.isBlank p.toChar = false) :
    ActionGiven fs (String.ofList (Text.trim (Json.plain v)))

def actionIn (f : Validation.Fields) : String :=
  match f.lookup actionKey with
  | some v => actionOf v
  | none => noAction

theorem actionOf_of_shown {v : Value} (hnull : v ≠ .null)
    (hv : ∀ s, v = .str s → ∃ p ∈ s, Text.isBlank p.toChar = false) :
    actionOf v = String.ofList (Text.trim (Json.plain v)) := by
  cases v with
  | null => exact absurd rfl hnull
  | str s =>
    obtain ⟨p, hp, hvisible⟩ := hv s rfl
    refine if_neg ?_
    rw [Bool.not_eq_true, List.all_eq_false]
    exact ⟨p.toChar, List.mem_map_of_mem hp, by simp [hvisible]⟩
  | _ => rfl

theorem actionOf_of_blank {s : List CodePoint} (hb : ∀ p ∈ s, Text.isBlank p.toChar = true) :
    actionOf (.str s) = "NONE" := by
  refine if_pos ?_
  rw [List.all_eq_true]
  intro c hc
  obtain ⟨p, hp, rfl⟩ := List.mem_map.mp hc
  exact hb p hp

theorem actionGiven_iff {fs : Validation.Fields} {a : String} :
    ActionGiven fs a ↔ actionIn (assignAll fs) = a := by
  unfold actionIn
  constructor
  · intro h
    cases h with
    | missing h => rw [Json.lookup_assignAll_eq_none_iff.mpr h]; rfl
    | null h => rw [Json.lookup_assignAll_eq_some_iff.mpr h]; rfl
    | blank h hb =>
      rw [Json.lookup_assignAll_eq_some_iff.mpr h]
      exact actionOf_of_blank hb
    | shown h hnull hv =>
      rw [Json.lookup_assignAll_eq_some_iff.mpr h]
      exact actionOf_of_shown hnull hv
  · rintro rfl
    cases hl : (assignAll fs).lookup actionKey with
    | none => exact .missing (Json.lookup_assignAll_eq_none_iff.mp hl)
    | some v =>
      have hgiven := Json.lookup_assignAll_eq_some_iff.mp hl
      by_cases hnull : v = .null
      · subst hnull
        exact .null hgiven
      · by_cases hv : ∀ s, v = .str s → ∃ p ∈ s, Text.isBlank p.toChar = false
        · have hshown := ActionGiven.shown hgiven hnull hv
          rwa [← actionOf_of_shown hnull hv] at hshown
        · push Not at hv
          obtain ⟨s, rfl, hb⟩ := hv
          have hb : ∀ p ∈ s, Text.isBlank p.toChar = true := by simpa using hb
          dsimp only
          rw [actionOf_of_blank hb]
          exact .blank hgiven hb

theorem optional_action (f : Validation.Fields) :
    Validation.optional ["action"] noAction (fun v => .ok (actionOf v)) f = .ok (actionIn f) := by
  have hfield : Value.field? f "action" = f.lookup actionKey := rfl
  unfold Validation.optional Validation.given? actionIn
  rw [List.findSome?_singleton, hfield]
  cases f.lookup actionKey <;> rfl

theorem ofFields_eq (f : Validation.Fields) :
    ofFields f =
      match f.lookup textKey with
      | some (.str s) => .ok ⟨CodePoint.toString s, actionIn f⟩
      | some _ => .error [⟨[.key "text"], .notString⟩]
      | none => .error [⟨[.key "text"], .missing⟩] := by
  have hfield : Value.field? f "text" = f.lookup textKey := rfl
  unfold ofFields Validation.required Validation.given?
  rw [optional_action, List.findSome?_singleton, hfield]
  cases f.lookup textKey with
  | none => rfl
  | some v => cases v <;> rfl

theorem ofObject_of_missing {f : Validation.Fields} (h : f.lookup textKey = none) :
    ofObject f = .error (.fault (.missing "text" (some "Field required"))) := by
  unfold ofObject
  rw [ofFields_eq, h]
  rfl

theorem ofObject_of_notString {f : Validation.Fields} {v : Value} (h : f.lookup textKey = some v)
    (hv : ∀ s, v ≠ .str s) :
    ofObject f = .error (.fault (.missing "text" (some "Input should be a valid string"))) := by
  unfold ofObject
  rw [ofFields_eq, h]
  cases v with
  | str s => exact absurd rfl (hv s)
  | _ => rfl

theorem ofObject_of_text {f : Validation.Fields} {t : String}
    (h : f.lookup textKey = some (.text t)) :
    ofObject f =
      if Text.blank t then .error (.fault (.missing "text" (some "empty")))
      else if actionIn f = ignoreAction then .error (.fault (.ignored "reply marked IGNORE"))
      else .ok ⟨t, actionIn f⟩ := by
  unfold ofObject
  rw [ofFields_eq, h]
  unfold Value.text
  dsimp only
  rw [Json.toString_ofString]

/-- What becomes of the members of an object, by the first check that fails. -/
inductive ObjectJudged (fs : Validation.Fields) : Except Stop Reply → Prop
  | missing (h : NeverGiven fs textKey) :
    ObjectJudged fs (.error (.fault (.missing "text" (some "Field required"))))
  | notString {v : Value} (h : LastGiven fs textKey v) (hv : ∀ s, v ≠ .str s) :
    ObjectJudged fs (.error (.fault (.missing "text" (some "Input should be a valid string"))))
  | blank {t : String} (h : LastGiven fs textKey (.text t))
    (hb : ¬ Text.Visible t.toList) :
    ObjectJudged fs (.error (.fault (.missing "text" (some "empty"))))
  | ignored {t : String} (h : LastGiven fs textKey (.text t)) (hv : Text.Visible t.toList)
    (ha : ActionGiven fs "IGNORE") :
    ObjectJudged fs (.error (.fault (.ignored "reply marked IGNORE")))
  | reply {t a : String} (h : LastGiven fs textKey (.text t)) (hv : Text.Visible t.toList)
    (ha : ActionGiven fs a) (hne : a ≠ "IGNORE") : ObjectJudged fs (.ok ⟨t, a⟩)

theorem blank_iff {t : String} : Text.blank t = true ↔ ¬ Text.Visible t.toList := by
  rw [Text.not_visible_iff]
  exact List.all_eq_true

theorem ObjectJudged.eq {fs : Validation.Fields} {r : Except Stop Reply}
    (h : ObjectJudged fs r) : ofObject (assignAll fs) = r := by
  cases h with
  | missing h => exact ofObject_of_missing (Json.lookup_assignAll_eq_none_iff.mpr h)
  | notString h hv => exact ofObject_of_notString (Json.lookup_assignAll_eq_some_iff.mpr h) hv
  | blank h hb =>
    rw [ofObject_of_text (Json.lookup_assignAll_eq_some_iff.mpr h), if_pos (blank_iff.mpr hb)]
  | ignored h hv ha =>
    rw [ofObject_of_text (Json.lookup_assignAll_eq_some_iff.mpr h),
      if_neg (mt blank_iff.mp (not_not_intro hv)), actionGiven_iff.mp ha]
    rfl
  | @reply t a h hv ha hne =>
    have hkept : a ≠ ignoreAction := hne
    rw [ofObject_of_text (Json.lookup_assignAll_eq_some_iff.mpr h),
      if_neg (mt blank_iff.mp (not_not_intro hv)), actionGiven_iff.mp ha, if_neg hkept]

theorem exists_objectJudged {fs : Validation.Fields}
    (hlone : (Value.obj (assignAll fs)).lone = false) : ∃ r, ObjectJudged fs r := by
  cases hl : (assignAll fs).lookup textKey with
  | none => exact ⟨_, .missing (Json.lookup_assignAll_eq_none_iff.mp hl)⟩
  | some v =>
    have hgiven := Json.lookup_assignAll_eq_some_iff.mp hl
    by_cases hv : ∀ s, v ≠ .str s
    · exact ⟨_, .notString hgiven hv⟩
    · push Not at hv
      obtain ⟨s, rfl⟩ := hv
      have hwhole : (Value.str s).lone = false :=
        Json.lone_of_mem (Json.mem_of_lookup hl) hlone
      obtain ⟨t, ht⟩ := Json.exists_text_of_not_lone hwhole
      rw [ht] at hgiven
      have haction : ActionGiven fs (actionIn (assignAll fs)) := actionGiven_iff.mpr rfl
      by_cases hvisible : Text.Visible t.toList
      · by_cases hignore : actionIn (assignAll fs) = "IGNORE"
        · rw [hignore] at haction
          exact ⟨_, .ignored hgiven hvisible haction⟩
        · exact ⟨_, .reply hgiven hvisible haction hignore⟩
      · exact ⟨_, .blank hgiven hvisible⟩

/-- What becomes of a body, by the first check that fails. -/
inductive BodyJudged (body : String) : Except Stop Reply → Prop
  | empty (h : ¬ Text.Visible body.toList) : BodyJudged body (malformed .empty)
  | notJson {flaw : Json.Flaw} {left : Nat} (hv : Text.Visible body.toList)
    (h : ∀ v, ¬ Spells (.item v) (Text.trim body.toList))
    (hf : Json.read (Text.trim body.toList) = .error (.malformed flaw left)) :
    BodyJudged body (malformed (locate flaw (Text.trim body.toList) left))
  | notArray {v : Value} (h : Spells (.item v) (Text.trim body.toList))
    (hv : ∀ vs, v ≠ .arr vs) : BodyJudged body (malformed (.notArray (Json.kindName v)))
  | emptyArray (h : Spells (.item (.arr [])) (Text.trim body.toList)) :
    BodyJudged body (malformed .emptyArray)
  | notObject {v : Value} {vs : List Value}
    (h : Spells (.item (.arr (v :: vs))) (Text.trim body.toList)) (hv : ∀ fs, v ≠ .obj fs) :
    BodyJudged body (malformed (.notObject (Json.kindName v)))
  | object {fs : Validation.Fields} {r : Except Stop Reply}
    (h : FirstMembers fs (Text.trim body.toList)) (hr : ObjectJudged fs r) : BodyJudged body r

theorem trim_ne_nil_of_spells {v : Value} {s : List Char}
    (h : Spells (.item v) (Text.trim s)) : (Text.trim s).isEmpty = false := by
  obtain ⟨a, c, u, -, htext, -⟩ := h.head
  rw [htext]
  cases a <;> rfl

theorem BodyJudged.eq {body : String} {r : Except Stop Reply} (h : BodyJudged body r) :
    ofBody body = r := by
  unfold ofBody
  cases h with
  | empty h =>
    have hempty := Text.trim_eq_nil_iff.mpr (Text.not_visible_iff.mp h)
    rw [hempty]
    rfl
  | notJson hv h hf =>
    have hne := (Text.visible_trim.mpr hv).ne_nil
    simp only [hf]
    rw [if_neg (by simpa using hne)]
  | @notArray v h hv =>
    have hread := Json.read_eq_ok_iff.mpr h
    simp only [hread, trim_ne_nil_of_spells h]
    cases v with
    | arr vs => exact absurd rfl (hv vs)
    | _ => rfl
  | emptyArray h =>
    have hread := Json.read_eq_ok_iff.mpr h
    simp only [hread, trim_ne_nil_of_spells h]
    rfl
  | @notObject v vs h hv =>
    have hread := Json.read_eq_ok_iff.mpr h
    simp only [hread, trim_ne_nil_of_spells h]
    cases v with
    | obj fields => exact absurd rfl (hv fields)
    | _ => rfl
  | object h hr =>
    obtain ⟨vs, hs⟩ := h.spells
    have hread := Json.read_eq_ok_iff.mpr hs
    simp only [hread, trim_ne_nil_of_spells hs]
    exact hr.eq

theorem exists_bodyJudged {body : String}
    (hlong : ∀ n, ¬ Json.Overlong n .item (Text.trim body.toList))
    (hlone : ∀ v, Spells (.item v) (Text.trim body.toList) → v.lone = false) :
    ∃ r, BodyJudged body r := by
  by_cases hv : Text.Visible body.toList
  · cases hread : Json.read (Text.trim body.toList) with
    | error fault =>
      cases fault with
      | digits n => exact absurd (Json.read_eq_digits_iff.mp hread) (hlong n)
      | malformed flaw left =>
        refine ⟨_, .notJson hv (fun v hs => ?_) hread⟩
        rw [Json.read_eq_ok_iff.mpr hs] at hread
        cases hread
    | ok v =>
      have hs := Json.read_eq_ok_iff.mp hread
      by_cases harray : ∀ vs, v ≠ .arr vs
      · exact ⟨_, .notArray hs harray⟩
      · push Not at harray
        obtain ⟨vs, rfl⟩ := harray
        cases vs with
        | nil => exact ⟨_, .emptyArray hs⟩
        | cons first rest =>
          by_cases hobject : ∀ fs, first ≠ .obj fs
          · exact ⟨_, .notObject hs hobject⟩
          · push Not at hobject
            obtain ⟨fields, rfl⟩ := hobject
            obtain ⟨fs, rfl, hfirst⟩ := Json.exists_firstMembers hs
            have hwhole : (Value.obj (assignAll fs)).lone = false ∧ Json.loneItem rest = false := by
              have hdata := hlone _ hs
              rwa [Value.lone, Json.loneItem, Bool.or_eq_false_iff] at hdata
            obtain ⟨r, hr⟩ := exists_objectJudged hwhole.1
            exact ⟨r, .object hfirst hr⟩
  · exact ⟨_, .empty hv⟩

/-- What becomes of an outcome, by the first check that fails. -/
inductive Judged (o : Outcome) : Except Stop Reply → Prop
  | transport {message : String} (h : o.failure = some message) :
    Judged o (.error (.fault (.transport message)))
  | unsuccessful {body : String} (hf : o.failure = none)
    (hs : ∀ status, o.status = some status → ¬ (200 ≤ status ∧ status < 300))
    (hb : o.body = some body) :
    Judged o (.error (.fault (.unsuccessful (o.status.getD 0) (excerpt 500 body))))
  | answered {status : Int} {body : String} {r : Except Stop Reply} (hf : o.failure = none)
    (hs : o.status = some status) (hlo : 200 ≤ status) (hhi : status < 300)
    (hb : o.body = some body) (h : BodyJudged body r) : Judged o r

theorem any_successful_iff {status : Option Int} :
    status.any successful = true ↔ ∃ n, status = some n ∧ 200 ≤ n ∧ n < 300 := by
  cases status with
  | none => simp
  | some n => simp [successful]

theorem Judged.eq {o : Outcome} {r : Except Stop Reply} (h : Judged o r) : ofOutcome o = r := by
  unfold ofOutcome
  cases h with
  | transport h => rw [h]
  | unsuccessful hf hs hb =>
    have hno : ¬ o.status.any successful = true := by
      rw [any_successful_iff]
      rintro ⟨n, hn, hin⟩
      exact hs n hn hin
    rw [hf, hb]
    exact if_neg hno
  | answered hf hs hlo hhi hb h =>
    have hyes : o.status.any successful = true := any_successful_iff.mpr ⟨_, hs, hlo, hhi⟩
    rw [hf, hb]
    exact (if_pos hyes).trans h.eq

/-- An outcome is judged by the first check that fails: failure, status, body, first item, its text
and its action. One that passes them all carries the reply. -/
theorem ofOutcome_judged {o : Outcome} {body : String} (hbody : o.body = some body)
    (hlong : ∀ n, ¬ Json.Overlong n .item (Text.trim body.toList))
    (hlone : ∀ v, Spells (.item v) (Text.trim body.toList) → v.lone = false) :
    (∀ reply, ofOutcome o = .ok reply ↔
      o.failure = none ∧ (∃ status, o.status = some status ∧ 200 ≤ status ∧ status < 300) ∧
        ∃ fs, FirstMembers fs (Text.trim body.toList) ∧ LastGiven fs textKey (.text reply.text) ∧
          Text.Visible reply.text.toList ∧ ActionGiven fs reply.action ∧
          reply.action ≠ "IGNORE") ∧
      ∀ r, ofOutcome o = r ↔ Judged o r := by
  -- Judgements are met by what the outcome gives, so that one of them is enough for each outcome.
  have hjudged : ∀ r, ofOutcome o = r ↔ Judged o r := by
    obtain ⟨r, hr⟩ : ∃ r, Judged o r := by
      cases hf : o.failure with
      | some message => exact ⟨_, .transport hf⟩
      | none =>
        by_cases hs : ∃ n, o.status = some n ∧ 200 ≤ n ∧ n < 300
        · obtain ⟨n, hn, hlo, hhi⟩ := hs
          obtain ⟨r, hr⟩ := exists_bodyJudged hlong hlone
          exact ⟨r, .answered hf hn hlo hhi hbody hr⟩
        · exact ⟨_, .unsuccessful hf (fun n hn hin => hs ⟨n, hn, hin⟩) hbody⟩
    intro r'
    refine ⟨?_, Judged.eq⟩
    rintro rfl
    rwa [hr.eq]
  refine ⟨fun reply => ⟨fun h => ?_, ?_⟩, hjudged⟩
  · cases (hjudged _).mp h with
    | answered hf hs hlo hhi hb hbodyJudged =>
      cases hbodyJudged with
      | object hfirst hr =>
        cases hr with
        | reply ht hv ha hne =>
          obtain rfl : _ = body := Option.some.inj (hb.symm.trans hbody)
          exact ⟨hf, ⟨_, hs, hlo, hhi⟩, _, hfirst, ht, hv, ha, hne⟩
  · rintro ⟨hf, ⟨status, hs, hlo, hhi⟩, fs, hfirst, ht, hv, ha, hne⟩
    exact Judged.eq (.answered hf hs hlo hhi hbody (.object hfirst (.reply ht hv ha hne)))

/-- A reply that gives its text twice, with white space around it and another item behind it. -/
def corrected : Outcome :=
  ⟨"Ann", some 200,
    some " [\x7b\"text\":\"Hi.\",\"action\":\" wave \",\"text\":\"Hello.\"\x7d, 7]\n", none⟩

/-- Of the two texts the second counts. -/
theorem judged_corrected : Judged corrected (.ok ⟨"Hello.", "wave"⟩) ∧
    ∃ fs, FirstMembers fs (Text.trim (corrected.body.getD "").toList) ∧
      LastGiven fs textKey (.text "Hello.") ∧ ActionGiven fs "wave" := by
  have hread : ofOutcome corrected = .ok ⟨"Hello.", "wave"⟩ := by decide +kernel
  have hlong : ∀ n, ¬ Json.Overlong n .item (Text.trim (corrected.body.getD "").toList) := by
    intro n hn
    obtain ⟨b, hb⟩ := ofOutcome_breach_iff.mpr ⟨rfl, .inl ⟨rfl, n, hn⟩⟩
    rw [hb] at hread
    cases hread
  have hlone : ∀ v, Spells (.item v) (Text.trim (corrected.body.getD "").toList) →
      v.lone = false := by
    intro v hv
    have hdata : ((Json.read (Text.trim (corrected.body.getD "").toList)).map Value.lone).toOption =
        some false := by decide +kernel
    rw [Json.read_eq_ok_iff.mpr hv] at hdata
    exact Option.some.inj hdata
  obtain ⟨hformat, hjudged⟩ := ofOutcome_judged (o := corrected) rfl hlong hlone
  obtain ⟨-, -, fs, hfirst, htext, -, haction, -⟩ := (hformat _).mp hread
  exact ⟨(hjudged _).mp hread, fs, hfirst, htext, haction⟩

end Reply
end Banter
