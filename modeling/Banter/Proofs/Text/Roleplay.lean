import Banter.Proofs.Text.Trim
import Banter.Text.Mention
import Banter.Text.Roleplay
import Mathlib.Algebra.Group.Nat.Even
import Mathlib.Data.List.Basic
import Mathlib.Tactic.SplitIfs

/-! What is left of a text without its action spans has one asterisk at most, also when mentions in
it are addressed. -/
namespace Banter.Text

/-- What is left of a text without its spans, each from an asterisk to the next one. -/
inductive Outside : List Char → List Char → Prop
  | whole {s : List Char} (h : s.count '*' ≤ 1) : Outside s s
  | span {a b s t : List Char} (ha : '*' ∉ a) (hb : '*' ∉ b) (h : Outside s t) :
    Outside (a ++ '*' :: (b ++ '*' :: s)) (a ++ t)

theorem dropSpans_append {a : List Char} (ha : '*' ∉ a) (s : List Char) :
    dropSpans none (a ++ s) = a ++ dropSpans none s := by
  induction a with
  | nil => rfl
  | cons c a ih =>
    have hc : '*' ≠ c := List.ne_of_not_mem_cons ha
    rw [List.cons_append, dropSpans, if_neg (Ne.symm hc), ih (List.not_mem_of_not_mem_cons ha)]
    rfl

theorem dropSpans_held {b : List Char} (hb : '*' ∉ b) (held s : List Char) :
    dropSpans (some held) (b ++ s) = dropSpans (some (b.reverse ++ held)) s := by
  induction b generalizing held with
  | nil => rfl
  | cons c b ih =>
    have hc : '*' ≠ c := List.ne_of_not_mem_cons hb
    rw [List.cons_append, dropSpans, if_neg (Ne.symm hc), ih (List.not_mem_of_not_mem_cons hb),
      List.reverse_cons, List.append_assoc]
    rfl

theorem dropSpans_span {a b : List Char} (ha : '*' ∉ a) (hb : '*' ∉ b) (s : List Char) :
    dropSpans none (a ++ '*' :: (b ++ '*' :: s)) = a ++ dropSpans none s := by
  rw [dropSpans_append ha, dropSpans, if_pos rfl, dropSpans_held hb, dropSpans, if_pos rfl]

theorem dropSpans_whole {s : List Char} (h : s.count '*' ≤ 1) : dropSpans none s = s := by
  by_cases hs : '*' ∈ s
  · obtain ⟨a, b, rfl, ha⟩ := List.eq_append_cons_of_mem hs
    have hb : '*' ∉ b := by
      rw [← List.count_eq_zero]
      rw [List.count_append, List.count_cons_self] at h
      omega
    have hheld := dropSpans_held hb [] []
    rw [List.append_nil, List.append_nil] at hheld
    rw [dropSpans_append ha, dropSpans, if_pos rfl, hheld, dropSpans, List.reverse_reverse]
  · have hall := dropSpans_append hs []
    rwa [List.append_nil, dropSpans, List.append_nil] at hall

theorem exists_outside (s : List Char) : ∃ t, Outside s t := by
  induction hn : s.length using Nat.strongRecOn generalizing s with
  | ind n ih =>
    by_cases hone : s.count '*' ≤ 1
    · exact ⟨s, .whole hone⟩
    · have hs : '*' ∈ s := List.count_pos_iff.mp (by omega)
      obtain ⟨a, r, rfl, ha⟩ := List.eq_append_cons_of_mem hs
      have hr : '*' ∈ r := by
        rw [List.count_append, List.count_cons_self, List.count_eq_zero_of_not_mem ha] at hone
        exact List.count_pos_iff.mp (by omega)
      obtain ⟨b, s, rfl, hb⟩ := List.eq_append_cons_of_mem hr
      have hshorter : s.length < n := by
        rw [← hn]
        simp only [List.length_append, List.length_cons]
        omega
      obtain ⟨t, ht⟩ := ih s.length hshorter s rfl
      exact ⟨a ++ t, .span ha hb ht⟩

theorem outside_iff {s t : List Char} : Outside s t ↔ t = dropSpans none s := by
  have heq : ∀ {s t}, Outside s t → t = dropSpans none s := by
    intro s t h
    induction h with
    | whole h => exact (dropSpans_whole h).symm
    | span ha hb _ ih => rw [dropSpans_span ha hb, ← ih]
  refine ⟨heq, ?_⟩
  rintro rfl
  obtain ⟨t, ht⟩ := exists_outside s
  rwa [← heq ht]

theorem Outside.count_le {s t : List Char} (h : Outside s t) : t.count '*' ≤ 1 := by
  induction h with
  | whole h => exact h
  | span ha _ _ ih => rwa [List.count_append, List.count_eq_zero_of_not_mem ha, Nat.zero_add]

theorem count_dropSpans_le (s : List Char) : (dropSpans none s).count '*' ≤ 1 :=
  (outside_iff.mpr rfl).count_le

theorem count_replaceFrom {c : Char} {old new : List Char} (hold : old ≠ [])
    (h : new.count c = old.count c) (n : Nat) (s : List Char) :
    (replaceFrom old new n s).count c = (s.drop n).count c := by
  induction s generalizing n with
  | nil => simp [replaceFrom]
  | cons x rest ih =>
    cases n with
    | succ n => exact ih n
    | zero =>
      unfold replaceFrom
      split_ifs with hfound
      · obtain ⟨t, ht⟩ := List.isPrefixOf_iff_prefix.mp hfound
        obtain ⟨y, more, rfl⟩ := List.exists_cons_of_ne_nil hold
        rw [List.cons_append] at ht
        obtain ⟨rfl, rfl⟩ := List.cons.inj ht
        have hpassed : (more ++ t).drop ((y :: more).length - 1) = t := by simp
        rw [List.count_append, ih, hpassed, h, List.drop_zero, ← List.count_append]
        rfl
      · rw [List.count_cons, ih, List.drop_zero, List.drop_zero, List.count_cons]

theorem count_addressMention {c : Char} (hat : c ≠ '@') (hcolon : c ≠ ':') (name s : List Char) :
    (addressMention name s).count c = s.count c := by
  refine count_replaceFrom (List.cons_ne_nil _ _) ?_ 0 s
  rw [List.count_append, List.count_cons_of_ne (Ne.symm hat),
    List.count_singleton, if_neg (by simpa using Ne.symm hcolon), Nat.add_zero]

theorem count_addressInOrder {c : Char} (hat : c ≠ '@') (hcolon : c ≠ ':')
    (names : List (List Char)) (s : List Char) :
    (addressInOrder names s).count c = s.count c := by
  induction names generalizing s with
  | nil => rfl
  | cons name rest ih =>
    unfold addressInOrder
    rw [ih]
    split_ifs
    · rfl
    · exact count_addressMention hat hcolon name s

/-- A text cut at its asterisks. -/
structure IsCut (s : List Char) (segments : List (List Char)) : Prop where
  joined : ['*'].intercalate segments = s
  length : segments.length = s.count '*' + 1
  free : ∀ segment ∈ segments, '*' ∉ segment

theorem isCut_starSegments (s : List Char) : IsCut s (starSegments s) := by
  induction s with
  | nil => exact ⟨rfl, rfl, by simp [starSegments]⟩
  | cons c s ih =>
    obtain ⟨hjoined, hlength, hfree⟩ := ih
    unfold starSegments
    cases hs : starSegments s with
    | nil => simp [hs] at hlength
    | cons segment more =>
      rw [hs] at hjoined hlength hfree
      obtain ⟨hsegment, hmore⟩ := List.forall_mem_cons.mp hfree
      dsimp only
      split_ifs with hc
      · subst c
        refine ⟨?_, ?_, ?_⟩
        · rw [List.intercalate_cons_cons, hjoined]
          rfl
        · rw [List.length_cons, hlength, List.count_cons_self]
        · simpa using hfree
      · refine ⟨?_, ?_, ?_⟩
        · rw [← hjoined]
          cases more with
          | nil => simp
          | cons next more => simp [List.intercalate_cons_cons]
        · rw [List.count_cons_of_ne hc, ← hlength]
          rfl
        · refine List.forall_mem_cons.mpr ⟨?_, hmore⟩
          simpa [Ne.symm hc] using hsegment

/-- The items at even places, from the first on. -/
def everyOther {α : Type} : List α → List α
  | [] => []
  | [a] => [a]
  | a :: _ :: rest => a :: everyOther rest

/-- Asterisks pair off from the left, so every other segment stays, and the last asterisk if it has
no partner. -/
theorem dropSpans_intercalate {segments : List (List Char)} (hne : segments ≠ [])
    (h : ∀ segment ∈ segments, '*' ∉ segment) :
    dropSpans none (['*'].intercalate segments) = (everyOther segments).flatten ++
      if Even segments.length then '*' :: segments.getLastD [] else [] := by
  induction segments using everyOther.induct with
  | case1 => exact absurd rfl hne
  | case2 a =>
    have ha : '*' ∉ a := h a List.mem_cons_self
    have hwhole : dropSpans none a = a :=
      dropSpans_whole (by simp [List.count_eq_zero_of_not_mem ha])
    simpa [everyOther] using hwhole
  | case3 a b rest ih =>
    obtain ⟨ha, hb, hrest⟩ : '*' ∉ a ∧ '*' ∉ b ∧ ∀ segment ∈ rest, '*' ∉ segment := by
      simpa using h
    cases rest with
    | nil =>
      have hone : (a ++ '*' :: b).count '*' ≤ 1 := by
        simp [List.count_eq_zero_of_not_mem ha, List.count_eq_zero_of_not_mem hb]
      have hpair : Even [a, b].length := ⟨1, rfl⟩
      rw [if_pos hpair]
      simpa [everyOther, List.intercalate_cons_cons] using dropSpans_whole hone
    | cons c more =>
      have hparity : Even (a :: b :: c :: more).length ↔ Even (c :: more).length := by
        simp [Nat.even_add_one]
      have hlast : (a :: b :: c :: more).getLastD [] = (c :: more).getLastD [] := rfl
      have hsplit : ['*'].intercalate (a :: b :: c :: more) =
          a ++ '*' :: (b ++ '*' :: ['*'].intercalate (c :: more)) := by
        simp [List.intercalate_cons_cons]
      rw [hsplit, dropSpans_span ha hb, ih (List.cons_ne_nil c more) hrest, hlast]
      simp only [hparity, everyOther, List.flatten_cons, List.append_assoc]

/-- Of the segments between asterisks every other one stays, from the first on, and with an odd
number of asterisks also the last of them and what follows it. -/
theorem stripRoleplay_by_segments (text : Option String) :
    let segments := starSegments (given text)
    let stars := (given text).count '*'
    let stripped := stripRoleplay text
    IsCut (given text) segments ∧
      stripped = String.ofList (trim
        (if Even stars then (everyOther segments).flatten
          else (everyOther segments).flatten ++ '*' :: segments.getLastD [])) ∧
      stripped.toList.count '*' ≤ 1 ∧ stripRoleplay (some stripped) = stripped := by
  intro segments stars stripped
  have hcut : IsCut (given text) segments := isCut_starSegments (given text)
  have hne : segments ≠ [] := by
    refine List.ne_nil_of_length_pos ?_
    rw [hcut.length]
    exact Nat.succ_pos stars
  have hleft := dropSpans_intercalate hne hcut.free
  rw [hcut.joined, hcut.length] at hleft
  have hstripped : stripped.toList = trim (dropSpans none (given text)) := String.toList_ofList
  have hone : stripped.toList.count '*' ≤ 1 := by
    rw [hstripped]
    exact Nat.le_trans ((trim_sublist _).count_le '*') (count_dropSpans_le _)
  refine ⟨hcut, ?_, hone, ?_⟩
  · change String.ofList (trim (dropSpans none (given text))) = _
    rw [hleft]
    congr 2
    by_cases heven : Even stars
    · have hodd : ¬ Even (stars + 1) := by rwa [Nat.even_add_one, not_not]
      rw [if_pos heven, if_neg hodd, List.append_nil]
    · have heven' : Even (stars + 1) := Nat.even_add_one.mpr heven
      rw [if_neg heven, if_pos heven']
  · have hagain : dropSpans none stripped.toList = stripped.toList := dropSpans_whole hone
    rw [stripRoleplay, stripRoleplayChars, given, Option.getD_some, hagain, hstripped, trim_trim]
    rfl

/-- Of five asterisks, two of them side by side, the last one stays. -/
example : stripRoleplay (some " *waves* Hi **there* you! ") = "Hi there* you!" := by
  decide +kernel

end Banter.Text
