import Banter.Proofs.Url.Punycode
import Banter.Proofs.Url.Spelling
import Banter.Url.Label

/-! A domain in ASCII form is its own ASCII form. -/
namespace Banter.Url

section Labels

/-- A label in normal spelling. -/
structure IsLabel (label : List Char) : Prop where
  permitted : Permitted label
  composed : compose label = label
  whole : '.' ∉ label

theorem isLabel_of_spell {s t label : List Char} (h : spell s = some t)
    (hlabel : label ∈ t.splitOn '.') : IsLabel label := by
  obtain ⟨u, hu, rfl⟩ := spell_eq_some h
  rw [hu.splitOn_compose] at hlabel
  obtain ⟨part, hpart, rfl⟩ := List.mem_map.mp hlabel
  rw [List.splitOn_eq_splitOnP] at hpart
  have hpermitted : Permitted part := fun c hc => hu c (of_mem_splitOnP hpart c hc).1
  have hwhole : '.' ∉ part := fun hc => by simpa using (of_mem_splitOnP hpart '.' hc).2
  exact ⟨hpermitted.compose, hpermitted.compose_compose, hpermitted.stop_not_mem_compose hwhole⟩

theorem spell_of_ascii {s : List Char} (hpermitted : Permitted s) (h : ∀ c ∈ s, c.toNat < 0x80) :
    spell s = some s := by
  rw [spell_of_permitted hpermitted, compose_of_ascii h]

/-- Characters of labels in ASCII form. -/
def Written (c : Char) : Prop :=
  isPermitted c = true ∧ c.toNat < 0x80 ∧ c ≠ '.'

theorem written_digitChar : ∀ d < 36, Written (Punycode.digitChar d) := by
  unfold Written
  decide

theorem written_asciiMark : ∀ c ∈ asciiMark, Written c := by
  have hall : (asciiMark.all fun c =>
      isPermitted c && decide (c.toNat < 0x80) && c != '.') = true := by decide
  simpa [Written, and_assoc] using hall

theorem isAscii_iff {s : List Char} : isAscii s = true ↔ ∀ c ∈ s, c.toNat < 0x80 := by
  simp [isAscii]

namespace IsLabel

variable {label : List Char}

theorem written (h : IsLabel label) : ∀ c ∈ writeLabel label, Written c := by
  intro c hc
  have hown : c ∈ label → c.toNat < 0x80 → Written c := by
    intro hc hascii
    refine ⟨h.permitted c hc, hascii, ?_⟩
    rintro rfl
    exact h.whole hc
  unfold writeLabel at hc
  split_ifs at hc with hascii
  · exact hown hc (isAscii_iff.mp hascii c hc)
  · rcases List.mem_append.mp hc with hc | hc
    · exact written_asciiMark c hc
    · rcases Punycode.mem_encode label hc with ⟨hc, hascii⟩ | rfl | ⟨d, hd, rfl⟩
      · exact hown hc hascii
      · exact written_asciiMark '-' (by decide)
      · exact written_digitChar d hd

theorem readLabel_writeLabel (h : IsLabel label) {read : List Char}
    (hread : readLabel label = some read) : readLabel (writeLabel label) = some read := by
  by_cases hascii : isAscii label = true
  · rw [writeLabel, if_pos hascii, hread]
  · have hplain : wellFormed label = true ∧ label = read := by
      unfold readLabel at hread
      split_ifs at hread with hmark hform
      exact ⟨hform, Option.some.inj hread⟩
    obtain ⟨hform, rfl⟩ := hplain
    have hmarked : asciiMark.isPrefixOf (writeLabel label) = true := by
      rw [writeLabel, if_neg hascii, List.isPrefixOf_iff_prefix]
      exact List.prefix_append _ _
    have hwritten : isAscii (writeLabel label) = true :=
      isAscii_iff.mpr fun c hc => (h.written c hc).2.1
    have hdecoded : Punycode.decode? ((writeLabel label).drop asciiMark.length) = some label := by
      rw [writeLabel, if_neg hascii, List.drop_left, Punycode.decode_encode]
    have hspelled : spell label = some label := by
      rw [spell_of_permitted h.permitted, h.composed]
    unfold readLabel
    rw [if_pos hmarked, if_pos hwritten, hdecoded]
    simp [hascii, hspelled, hform]

end IsLabel
end Labels

section Domains

variable {s domain : List Char}

theorem domainToAscii_eq_some_iff :
    domainToAscii s = some domain ↔
      ∃ spelled read, spell s = some spelled ∧ (spelled.splitOn '.').mapM readLabel = some read ∧
        directionsFit read = true ∧ (∀ c ∈ domain, forbidden c = false) ∧
        ['.'].intercalate ((spelled.splitOn '.').map writeLabel) = domain := by
  unfold domainToAscii
  simp only [Option.bind_eq_bind, Option.bind_eq_some_iff]
  constructor
  · rintro ⟨spelled, hspelled, read, hread, hchecked⟩
    split_ifs at hchecked with hwrong
    obtain rfl := Option.some.inj hchecked
    rw [Bool.or_eq_true, not_or] at hwrong
    refine ⟨spelled, read, hspelled, hread, by simpa using hwrong.1, ?_, rfl⟩
    simpa using hwrong.2
  · rintro ⟨spelled, read, hspelled, hread, hfit, hallowed, rfl⟩
    refine ⟨spelled, hspelled, read, hread, ?_⟩
    have hright : (!directionsFit read || (['.'].intercalate
        ((spelled.splitOn '.').map writeLabel)).any forbidden) = false := by
      rw [hfit, List.any_eq_false.mpr fun c hc => by simp [hallowed c hc]]
      rfl
    rw [hright]
    rfl

/-- Labels in ASCII form, put together, are their own ASCII form. -/
theorem domainToAscii_written {labels : List (List Char)} {read : List (List Char)}
    (hsome : labels ≠ []) (hwritten : ∀ label ∈ labels, ∀ c ∈ label, Written c)
    (hread : labels.mapM readLabel = some read) (hfit : directionsFit read = true)
    (hallowed : ∀ c ∈ ['.'].intercalate labels, forbidden c = false) :
    domainToAscii (['.'].intercalate labels) = some (['.'].intercalate labels) := by
  have hchars : ∀ c ∈ ['.'].intercalate labels, isPermitted c = true ∧ c.toNat < 0x80 := by
    intro c hc
    rcases mem_of_mem_intercalate hc with rfl | ⟨label, hlabel, hc⟩
    · exact ⟨by decide, by decide⟩
    · exact ⟨(hwritten label hlabel c hc).1, (hwritten label hlabel c hc).2.1⟩
  have hlabels : (['.'].intercalate labels).splitOn '.' = labels :=
    List.splitOn_intercalate '.'
      (fun label hlabel hc => (hwritten label hlabel '.' hc).2.2 rfl) hsome
  have hkept : labels.map writeLabel = labels := by
    refine (List.map_congr_left fun label hlabel => ?_).trans (List.map_id labels)
    rw [writeLabel, if_pos (isAscii_iff.mpr fun c hc => (hwritten label hlabel c hc).2.1)]
    rfl
  rw [domainToAscii_eq_some_iff]
  refine ⟨_, read, spell_of_ascii (fun c hc => (hchars c hc).1) fun c hc => (hchars c hc).2, ?_,
    hfit, hallowed, ?_⟩
  · rw [hlabels, hread]
  · rw [hlabels, hkept]

theorem plain_of_domainToAscii (h : domainToAscii s = some domain) :
    ∀ c ∈ domain, forbidden c = false ∧ c.toNat < 0x80 := by
  obtain ⟨spelled, read, hspelled, hread, hfit, hallowed, rfl⟩ := domainToAscii_eq_some_iff.mp h
  intro c hc
  refine ⟨hallowed c hc, ?_⟩
  rcases mem_of_mem_intercalate hc with rfl | ⟨form, hform, hc⟩
  · decide
  · obtain ⟨label, hlabel, rfl⟩ := List.mem_map.mp hform
    exact ((isLabel_of_spell hspelled hlabel).written c hc).2.1

theorem domainToAscii_again (h : domainToAscii s = some domain) :
    domainToAscii domain = some domain := by
  obtain ⟨spelled, read, hspelled, hread, hfit, hallowed, rfl⟩ := domainToAscii_eq_some_iff.mp h
  have hlabels : ∀ label ∈ spelled.splitOn '.', IsLabel label :=
    fun label hlabel => isLabel_of_spell hspelled hlabel
  refine domainToAscii_written (by simp [List.splitOn_ne_nil]) ?_ ?_ hfit hallowed
  · intro form hform
    obtain ⟨label, hlabel, rfl⟩ := List.mem_map.mp hform
    exact (hlabels label hlabel).written
  · exact mapM_map hread fun label hlabel _ hlabelRead =>
      (hlabels label hlabel).readLabel_writeLabel hlabelRead

end Domains

end Banter.Url
