import Banter.Proofs.Reply.Wholeness
import Banter.Proofs.Text.Layout
import Banter.Proofs.Text.Roleplay
import Mathlib.Data.List.Flatten

/-! Whatever a reply says and whatever is drawn, the lines prepared from it can be put to the chat. -/
namespace Banter.Reply

theorem count_cleaned_le (text : String) (names : List String) :
    (Text.addressMentions (Text.stripRoleplay (some text)) names).toList.count '*' ≤ 1 := by
  have hkept : (Text.stripRoleplay (some text)).toList.Sublist
      (Text.dropSpans none text.toList) := by
    unfold Text.stripRoleplay Text.stripRoleplayChars Text.given
    rw [String.toList_ofList, Option.getD_some]
    exact Text.trim_sublist _
  unfold Text.addressMentions
  rw [String.toList_ofList, Text.count_addressInOrder (by decide) (by decide)]
  exact (hkept.count_le '*').trans (Text.count_dropSpans_le text.toList)

/-- At most three lines of the cleaned reply, in order, and in a crowd only the first. Each is tidy
and short or one word, and all together have one asterisk at most. -/
theorem prepareLines_utterable (text : String) (s : Activity.Snapshot) (d : Draws) :
    let parts := Text.segment
      (some (Text.addressMentions (Text.stripRoleplay (some text)) s.activeParticipants)) 80
    let prepared := prepareLines text s d
    prepared.1.length ≤ 3 ∧ prepared.1.Sublist parts ∧
      (5 < s.participantCount → prepared = (parts.take 1, d)) ∧
      (∀ line ∈ prepared.1, Text.Tidy line.toList ∧
        ((line.length : Int) ≤ 80 ∨ Text.IsWord line.toList)) ∧
      (prepared.1.flatMap String.toList).count '*' ≤ 1 ∧
      ∃ left, (∀ t, Text.Outside text.toList t ↔ t = left) ∧
        (prepared.1 = [] ↔ ∀ c ∈ left, Text.isBlank c = true) := by
  intro parts prepared
  have hprepared : prepared = Selection.limitParts parts s.participantCount d := rfl
  have hsub : prepared.1.Sublist parts := Selection.limitParts_sublist _ _ _
  have hstars : (prepared.1.flatMap String.toList).count '*' ≤ 1 := by
    have hfewer : (prepared.1.flatMap String.toList).Sublist (parts.flatMap String.toList) :=
      hsub.flatMap String.toList
    refine (hfewer.count_le '*').trans ?_
    rw [Text.count_segment (by rfl)]
    exact count_cleaned_le text s.activeParticipants
  have hnone : prepared.1 = [] ↔ ∀ c ∈ Text.dropSpans none text.toList, Text.isBlank c = true := by
    constructor
    · intro hnil
      rw [← Text.not_visible_iff]
      exact fun hvisible => prepareLines_ne_nil s d hvisible hnil
    · intro hblank
      exact congrArg Prod.fst (prepareLines_of_blank s d hblank)
  refine ⟨Selection.length_limitParts_le _ _ _, hsub, fun hbusy => ?_, fun line hline => ?_, hstars,
    Text.dropSpans none text.toList, fun t => Text.outside_iff, hnone⟩
  · exact hprepared.trans (Selection.limitParts_busy parts d hbusy)
  · obtain ⟨us, hne, hu, hfit, rfl⟩ := Text.exists_of_mem_segment (hsub.subset hline)
    rw [String.toList_ofList, String.length_ofList]
    exact ⟨Text.tidy_unwords hu hne, hfit.length_le_or_isWord hne hu⟩

end Banter.Reply
