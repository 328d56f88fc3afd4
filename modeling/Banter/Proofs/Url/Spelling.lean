import Banter.Proofs.Url.Composition
import Banter.Proofs.Url.Parts
import Banter.Url.Label

/-! The normal spelling of a text, and of each of its labels, is its own normal spelling. -/
namespace Banter.Url

open Text (bits spanBits)

section Permitted

/-- All characters stay as they are. -/
def Permitted (s : List Char) : Prop :=
  ∀ c ∈ s, isPermitted c = true

theorem isPermitted_eq (c : Char) : isPermitted c = permittedBits.testBit c.toNat :=
  Text.inSpans_eq arranged.permitted_ascending c.toNat

theorem isValidChar_of_permitted {n : Nat} (h : permittedBits.testBit n = true) :
    n.isValidChar := by
  obtain ⟨hsurrogate, hlast⟩ := arranged.permitted_valid
  have hlow : n < 0x110000 := by
    by_contra hbeyond
    obtain ⟨m, rfl⟩ := Nat.exists_eq_add_of_le (Nat.not_lt.mp hbeyond)
    rw [← Nat.testBit_shiftRight, hlast, Nat.zero_testBit] at h
    cases h
  have hpair : ¬ (0xd800 ≤ n ∧ n ≤ 0xdfff) := by
    intro hin
    have hnone := Text.testBit_of_land hsurrogate h
    rw [Text.testBit_spanBits.mpr ⟨_, List.mem_cons_self, hin⟩] at hnone
    cases hnone
  unfold Nat.isValidChar
  omega

theorem toNat_ofNat {n : Nat} (h : permittedBits.testBit n = true) : (Char.ofNat n).toNat = n := by
  rw [Char.ofNat, dif_pos (isValidChar_of_permitted h)]
  rfl

theorem isPermitted_ofNat {n : Nat} (h : permittedBits.testBit n = true) :
    isPermitted (Char.ofNat n) = true := by
  rw [isPermitted_eq, toNat_ofNat h, h]

end Permitted

section Respelled

/-- What the characters of a run become. -/
def runImages (run : Text.CaseRun) : List Nat :=
  (List.range ((run.last - run.first) / run.stride + 1)).map fun i =>
    (((run.first + i * run.stride : Nat) : Int) + run.shift).toNat

def respelledBits : Nat :=
  bits (respelledRuns.flatMap runImages ++ respelledSingly.flatMap fun row => row.2)

theorem respelled_permitted : respelledBits ||| permittedBits = permittedBits := by decide +kernel

theorem mem_runImages {run : Text.CaseRun} {n : Nat} (h : run.covers n = true) :
    ((n : Int) + run.shift).toNat ∈ runImages run := by
  simp only [Text.CaseRun.covers, Bool.and_eq_true, decide_eq_true_eq, beq_iff_eq] at h
  obtain ⟨⟨hfirst, hlast⟩, hstride⟩ := h
  have hn : run.first + (n - run.first) / run.stride * run.stride = n := by
    rw [Nat.div_mul_cancel (Nat.dvd_of_mod_eq_zero hstride)]
    omega
  have hsteps : (n - run.first) / run.stride ≤ (run.last - run.first) / run.stride :=
    Nat.div_le_div_right (by omega)
  exact List.mem_map.mpr ⟨_, List.mem_range.mpr (Nat.lt_succ_of_le hsteps), by rw [hn]⟩

theorem permitted_respelled {c : Char} {s : List Char} (h : respelled? c = some s) :
    Permitted s := by
  unfold respelled? at h
  split at h
  · next run hrun =>
    obtain rfl := Option.some.inj h
    have hcovers : run.covers c.toNat = true := by
      simpa using List.find?_some hrun
    have himage : respelledBits.testBit ((c.toNat : Int) + run.shift).toNat = true :=
      Text.testBit_bits.mpr (List.mem_append_left _ (List.mem_flatMap.mpr
        ⟨run, List.mem_of_find?_eq_some hrun, mem_runImages hcovers⟩))
    intro d hd
    rw [List.mem_singleton.mp hd]
    exact isPermitted_ofNat (Text.testBit_of_lor respelled_permitted himage)
  · obtain ⟨⟨source, images⟩, hrow, himages⟩ := List.exists_of_findSome?_eq_some h
    dsimp only at himages
    split_ifs at himages
    obtain rfl := Option.some.inj himages
    intro d hd
    obtain ⟨n, hn, rfl⟩ := List.mem_map.mp hd
    have himage : respelledBits.testBit n = true :=
      Text.testBit_bits.mpr (List.mem_append_right _ (List.mem_flatMap.mpr ⟨_, hrow, hn⟩))
    exact isPermitted_ofNat (Text.testBit_of_lor respelled_permitted himage)

end Respelled

section Composed

variable {s : List Char}

theorem Permitted.bits (h : Permitted s) :
    ∀ n ∈ s.map Char.toNat, permittedBits.testBit n = true := by
  intro n hn
  obtain ⟨c, hc, rfl⟩ := List.mem_map.mp hn
  rw [← isPermitted_eq]
  exact h c hc

theorem Permitted.toNat_compose (h : Permitted s) :
    (compose s).map Char.toNat = composed (s.map Char.toNat) := by
  have hcomposed := shared_permitted.composed h.bits
  rw [compose_eq, List.map_map]
  calc _ = (composed (s.map Char.toNat)).map id :=
        List.map_congr_left fun n hn => toNat_ofNat (hcomposed n hn)
    _ = _ := List.map_id _

theorem Permitted.compose (h : Permitted s) : Permitted (compose s) := by
  intro c hc
  rw [isPermitted_eq]
  refine shared_permitted.composed h.bits c.toNat ?_
  rw [← h.toNat_compose]
  exact List.mem_map_of_mem hc

theorem Permitted.compose_compose (h : Permitted s) :
    Url.compose (Url.compose s) = Url.compose s := by
  rw [compose_eq (Url.compose s), h.toNat_compose, composed_composed, ← compose_eq]

theorem compose_append_stop (s t : List Char) :
    compose (s ++ '.' :: t) = compose s ++ '.' :: compose t := by
  have hstop : ∀ u : List Char, ('.' :: u).map Char.toNat = stop :: u.map Char.toNat := fun u => rfl
  rw [compose_eq, List.map_append, hstop, composed_append_stop, List.map_append, compose_eq s,
    compose_eq t]
  rfl

theorem Permitted.stop_not_mem_compose (h : Permitted s) (hs : '.' ∉ s) : '.' ∉ Url.compose s := by
  intro hc
  have hstop : ∀ n ∈ s.map Char.toNat, n ≠ stop := by
    intro n hn
    obtain ⟨c, hc, rfl⟩ := List.mem_map.mp hn
    intro heq
    obtain rfl : c = '.' := Char.toNat_inj.mp heq
    exact hs hc
  refine shared_stop.composed hstop stop ?_ rfl
  rw [← h.toNat_compose]
  exact List.mem_map.mpr ⟨'.', hc, rfl⟩

theorem Permitted.splitOn_compose (h : Permitted s) :
    (Url.compose s).splitOn '.' = (s.splitOn '.').map Url.compose := by
  induction hlength : s.length using Nat.strongRecOn generalizing s with
  | ind n ih =>
    by_cases hstop : '.' ∈ s
    · obtain ⟨front, back, rfl, hfront⟩ := List.eq_append_cons_of_mem hstop
      have hpermitted : Permitted front ∧ Permitted back :=
        ⟨fun c hc => h c (by simp [hc]), fun c hc => h c (by simp [hc])⟩
      have hback := ih back.length (by rw [← hlength]; simp; omega) hpermitted.2 rfl
      rw [compose_append_stop, List.splitOn_append_cons_self_of_not_mem hfront,
        List.splitOn_append_cons_self_of_not_mem (hpermitted.1.stop_not_mem_compose hfront), hback]
      rfl
    · rw [List.splitOn_eq_singleton hstop, List.splitOn_eq_singleton (h.stop_not_mem_compose hstop)]
      rfl

theorem compose_of_ascii (h : ∀ c ∈ s, c.toNat < 0x80) : compose s = s := by
  have hascii : ∀ n ∈ s.map Char.toNat, n ≤ 0x7f := by
    intro n hn
    obtain ⟨c, hc, rfl⟩ := List.mem_map.mp hn
    exact Nat.le_of_lt_succ (h c hc)
  rw [compose_eq, composed_of_ascii hascii]
  simp [Function.comp_def]

end Composed

section Spell

variable {s t : List Char}

/-- A normal spelling is composed of permitted characters. -/
theorem spell_eq_some (h : spell s = some t) : ∃ u, Permitted u ∧ t = compose u := by
  obtain ⟨parts, hparts, hcomposed⟩ := Option.bind_eq_some_iff.mp h
  refine ⟨parts.flatten, fun c hc => ?_, (Option.some.inj hcomposed).symm⟩
  obtain ⟨part, hpart, hc⟩ := List.mem_flatten.mp hc
  have hall : ∀ p ∈ parts, Permitted p := by
    refine forall_of_mapM (fun d p hp => ?_) hparts
    split_ifs at hp with hd hignored
    · obtain rfl := Option.some.inj hp
      intro e he
      rw [List.mem_singleton.mp he]
      exact hd
    · obtain rfl := Option.some.inj hp
      simp [Permitted]
    · exact permitted_respelled hp
  exact hall part hpart c hc

theorem spell_of_permitted (h : Permitted s) : spell s = some (compose s) := by
  have hparts : (s.mapM fun c =>
      if isPermitted c then some [c] else if isIgnored c then some [] else respelled? c) =
      some (s.map fun c => [c]) := by
    rw [mapM_eq_some_iff, List.forall₂_map_right_iff, List.forall₂_same]
    exact fun c hc => if_pos (h c hc)
  have hflat : (s.map fun c => [c]).flatten = s := by
    rw [← List.flatMap_def, List.flatMap_singleton']
  unfold spell
  rw [hparts]
  exact congrArg (fun u => some (compose u)) hflat

end Spell

end Banter.Url
