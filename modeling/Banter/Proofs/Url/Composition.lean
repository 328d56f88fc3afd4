import Banter.Proofs.Url.Combining
import Mathlib.Data.List.Chain

/-!
Composing a text twice is composing it once: taking the composed text apart and putting its marks in
order gives the order that it was composed from.
-/
namespace Banter.Url

section Order

/-- One character may stand behind another: it stays where it is, or its place is no lower. -/
def Follows (m n : Nat) : Prop :=
  place n = 0 ∨ place m ≤ place n

theorem insertMark_passing {m n : Nat} (h : 0 < place m ∧ place m < place n) (rest : List Nat) :
    insertMark n (m :: rest) = m :: insertMark n rest := by
  simp [insertMark, h]

theorem insertMark_stopping {m n : Nat} (h : ¬ (0 < place m ∧ place m < place n))
    (rest : List Nat) : insertMark n (m :: rest) = n :: m :: rest := by
  rw [insertMark, if_neg (by simpa using h)]

theorem insertMark_comm {k n : Nat} (hk : 0 < place k) (hkn : place k < place n) (s : List Nat) :
    insertMark k (insertMark n s) = insertMark n (insertMark k s) := by
  have hpassing : ∀ rest, insertMark n (k :: rest) = k :: insertMark n rest :=
    insertMark_passing ⟨hk, hkn⟩
  have hstopping : ∀ rest, insertMark k (n :: rest) = k :: n :: rest :=
    insertMark_stopping fun h => Nat.lt_asymm hkn h.2
  induction s with
  | nil => exact (hstopping []).trans (hpassing []).symm
  | cons m rest ih =>
    by_cases hmk : 0 < place m ∧ place m < place k
    · have hmn : 0 < place m ∧ place m < place n := ⟨hmk.1, Nat.lt_trans hmk.2 hkn⟩
      rw [insertMark_passing hmn, insertMark_passing hmk, insertMark_passing hmk,
        insertMark_passing hmn, ih]
    · by_cases hmn : 0 < place m ∧ place m < place n
      · rw [insertMark_passing hmn, insertMark_stopping hmk, insertMark_stopping hmk, hpassing,
          insertMark_passing hmn]
      · rw [insertMark_stopping hmn, insertMark_stopping hmk, hstopping, hpassing,
          insertMark_stopping hmn]

theorem insertMark_perm (n : Nat) (s : List Nat) : (insertMark n s).Perm (n :: s) := by
  induction s with
  | nil => exact List.Perm.refl _
  | cons m rest ih =>
    unfold insertMark
    split_ifs
    · exact (ih.cons m).trans (List.Perm.swap n m rest)
    · exact List.Perm.refl _

theorem inOrder_perm (s : List Nat) : (inOrder s).Perm s := by
  induction s with
  | nil => exact List.Perm.refl _
  | cons n rest ih => exact (insertMark_perm n _).trans (ih.cons n)

theorem isChain_insertMark {n : Nat} {s : List Nat} (h : s.IsChain Follows) :
    (insertMark n s).IsChain Follows := by
  induction s with
  | nil => exact List.isChain_singleton n
  | cons m rest ih =>
    obtain ⟨hfirst, hrest⟩ := List.isChain_cons.mp h
    by_cases hpass : 0 < place m ∧ place m < place n
    · rw [insertMark_passing hpass]
      refine List.isChain_cons.mpr ⟨fun d hd => ?_, ih hrest⟩
      have hhead : d = n ∨ d ∈ rest.head? := by
        cases rest with
        | nil => exact .inl (Option.some.inj hd).symm
        | cons e more =>
          unfold insertMark at hd
          split_ifs at hd
          · exact .inr hd
          · exact .inl (Option.some.inj hd).symm
      rcases hhead with rfl | hd
      · exact .inr (Nat.le_of_lt hpass.2)
      · exact hfirst d hd
    · rw [insertMark_stopping hpass]
      refine List.isChain_cons.mpr ⟨fun d hd => ?_, h⟩
      obtain rfl := Option.some.inj hd
      unfold Follows
      omega

theorem isChain_inOrder (s : List Nat) : (inOrder s).IsChain Follows := by
  induction s with
  | nil => exact List.isChain_nil
  | cons n rest ih => exact isChain_insertMark ih

theorem inOrder_of_isChain {s : List Nat} (h : s.IsChain Follows) : inOrder s = s := by
  induction s with
  | nil => rfl
  | cons n rest ih =>
    obtain ⟨hfirst, hrest⟩ := List.isChain_cons.mp h
    have hrest' := ih hrest
    unfold inOrder at hrest' ⊢
    rw [List.foldr_cons, hrest']
    cases rest with
    | nil => rfl
    | cons m more =>
      have hm : place m = 0 ∨ place n ≤ place m := hfirst m rfl
      exact insertMark_stopping (by omega) more

theorem inOrder_append (s t : List Nat) : inOrder (s ++ t) = s.foldr insertMark (inOrder t) :=
  List.foldr_append

theorem inOrder_pass {n : Nat} {kept : List Nat}
    (h : ∀ k ∈ kept, 0 < place k ∧ place k < place n) (s : List Nat) :
    inOrder (n :: kept ++ s) = inOrder (kept ++ n :: s) := by
  induction kept with
  | nil => rfl
  | cons k kept ih =>
    obtain ⟨hk, hkn⟩ := h k List.mem_cons_self
    have hrest := ih fun m hm => h m (List.mem_cons_of_mem k hm)
    calc inOrder (n :: (k :: kept) ++ s)
        = insertMark n (insertMark k (inOrder (kept ++ s))) := rfl
      _ = insertMark k (insertMark n (inOrder (kept ++ s))) := (insertMark_comm hk hkn _).symm
      _ = insertMark k (inOrder (kept ++ n :: s)) := congrArg (insertMark k) hrest
      _ = inOrder (k :: kept ++ n :: s) := rfl

end Order

section Joining

def apart (s : List Nat) : List Nat :=
  s.flatMap (takeApart mostLayers)

theorem apart_append (s t : List Nat) : apart (s ++ t) = apart s ++ apart t :=
  List.flatMap_append

theorem apart_cons (n : Nat) (s : List Nat) : apart (n :: s) = takeApart mostLayers n ++ apart s :=
  List.flatMap_cons

theorem apart_of_simple {s : List Nat} (h : ∀ n ∈ s, Simple n) : apart s = s := by
  induction s with
  | nil => rfl
  | cons n rest ih =>
    rw [apart_cons, takeApart_simple (h n List.mem_cons_self),
      ih fun m hm => h m (List.mem_cons_of_mem n hm)]
    rfl

/-- Marks in order behind a base, and what is left to be joined with it. -/
structure Joinable (kept rest : List Nat) : Prop where
  simple : ∀ n ∈ kept ++ rest, Simple n
  placed : ∀ n ∈ kept, 0 < place n
  chain : (kept.reverse ++ rest).IsChain Follows

theorem Joinable.tail {n : Nat} {kept rest : List Nat} (h : Joinable kept (n :: rest)) :
    Joinable [] rest where
  simple := fun m hm => h.simple m (List.mem_append_right _ (List.mem_cons_of_mem n hm))
  placed := by simp
  chain := by
    have hchain := (List.isChain_append.mp h.chain).2.1
    exact (List.isChain_cons.mp hchain).2

theorem Joinable.keep {n : Nat} {kept rest : List Nat} (h : Joinable kept (n :: rest))
    (hn : place n ≠ 0) : Joinable (n :: kept) rest where
  simple := by
    intro m hm
    refine h.simple m ?_
    simpa [or_left_comm] using hm
  placed := by
    intro m hm
    rcases List.mem_cons.mp hm with rfl | hm
    · exact Nat.pos_of_ne_zero hn
    · exact h.placed m hm
  chain := by simpa using h.chain

theorem le_head_of_isChain {m : Nat} {kept : List Nat} (hplaced : ∀ k ∈ m :: kept, 0 < place k)
    (h : (m :: kept).reverse.IsChain Follows) : ∀ k ∈ m :: kept, place k ≤ place m := by
  rw [List.isChain_reverse] at h
  induction kept generalizing m with
  | nil => exact fun k hk => List.mem_singleton.mp hk ▸ Nat.le_refl _
  | cons next kept ih =>
    obtain ⟨hnext, hrest⟩ := List.isChain_cons_cons.mp h
    have hle : place next ≤ place m :=
      hnext.resolve_left (Nat.ne_of_gt (hplaced m List.mem_cons_self))
    intro k hk
    rcases List.mem_cons.mp hk with rfl | hk
    · exact Nat.le_refl _
    · exact (ih (fun k hk => hplaced k (List.mem_cons_of_mem m hk)) hrest k hk).trans hle

theorem Joinable.passes {n : Nat} {kept rest : List Nat} (h : Joinable kept (n :: rest))
    (hopen : kept.head?.any (fun m => decide (place n ≤ place m)) = false) :
    (∀ k ∈ kept.reverse, 0 < place k ∧ place k < place n) ∧ Joinable kept rest := by
  cases kept with
  | nil => exact ⟨by simp, h.tail⟩
  | cons m more =>
    have hm : place m < place n := by simpa using hopen
    obtain ⟨hkept, hrest, -⟩ := List.isChain_append.mp h.chain
    have hle := le_head_of_isChain h.placed hkept
    refine ⟨fun k hk => ?_, fun k hk => h.simple k ?_, h.placed, ?_⟩
    · have hk' := List.mem_reverse.mp hk
      exact ⟨h.placed k hk', Nat.lt_of_le_of_lt (hle k hk') hm⟩
    · simp only [List.mem_append, List.mem_cons] at hk ⊢
      tauto
    · refine List.isChain_append.mpr ⟨hkept, (List.isChain_cons.mp hrest).2, fun x hx y hy => ?_⟩
      have hlast : x = m := by simpa using hx.symm
      have hnext : Follows n y := (List.isChain_cons.mp hrest).1 y hy
      unfold Follows at hnext ⊢
      rw [hlast]
      omega

/-- What was joined is taken apart again, whatever was joined with what. -/
theorem inOrder_apart_joinFrom (base : Nat) {kept rest : List Nat} (h : Joinable kept rest) :
    inOrder (apart (joinFrom base kept rest)) =
      inOrder (takeApart mostLayers base ++ (kept.reverse ++ rest)) := by
  fun_induction joinFrom base kept rest with
  | case1 base kept =>
    rw [apart_cons, apart_of_simple fun n hn => h.simple n (by simpa using hn), List.append_nil]
  | case2 base kept n rest hidden whole hwhole ih =>
    -- The character that was joined is taken apart into its base and a mark that passes the others.
    have hopen : hidden = false ∧ whole? base n = some whole := by
      split_ifs at hwhole with hhidden
      exact ⟨Bool.eq_false_iff.mpr hhidden, hwhole⟩
    obtain ⟨hpass, hjoinable⟩ := h.passes hopen.1
    rw [ih hjoinable, takeApart_made (makes_of_whole hopen.2), List.append_assoc, inOrder_append,
      inOrder_append (takeApart mostLayers base), List.singleton_append, ← List.cons_append,
      inOrder_pass hpass]
  | case3 base kept n rest hidden hwhole hn ih =>
    have hsimple : ∀ m ∈ kept.reverse ++ n :: rest, Simple m :=
      fun m hm => h.simple m (by simpa using hm)
    have hkept : apart kept.reverse = kept.reverse :=
      apart_of_simple fun m hm => hsimple m (List.mem_append_left _ hm)
    have hnext : takeApart mostLayers n = [n] := takeApart_simple (hsimple n (by simp))
    have hrest := ih h.tail
    rw [List.reverse_nil, List.nil_append, hnext] at hrest
    rw [List.cons_append, apart_cons, apart_append, hkept, ← List.append_assoc, inOrder_append,
      hrest, ← inOrder_append]
    simp
  | case4 base kept n rest hidden hwhole hn ih =>
    rw [ih (h.keep hn)]
    simp

def joined : List Nat → List Nat
  | [] => []
  | n :: rest => joinFrom n [] rest

def composed (s : List Nat) : List Nat :=
  joined (inOrder (apart s))

theorem compose_eq (s : List Char) : compose s = (composed (s.map Char.toNat)).map Char.ofNat := by
  have hapart : (s.flatMap fun c => takeApart mostLayers c.toNat) = apart (s.map Char.toNat) := by
    rw [apart, List.flatMap_map]
  unfold compose composed
  rw [hapart]
  cases inOrder (apart (s.map Char.toNat)) with
  | nil => rfl
  | cons n rest => rfl

theorem simple_of_mem_apart {s : List Nat} : ∀ n ∈ apart s, Simple n := by
  intro n hn
  obtain ⟨m, -, hm⟩ := List.mem_flatMap.mp hn
  exact simple_of_mem_takeApart (fun h => not_layered m (h.of_le (by decide))) n hm

theorem composed_composed (s : List Nat) : composed (composed s) = composed s := by
  have hchain := isChain_inOrder (apart s)
  have hsimple : ∀ n ∈ inOrder (apart s), Simple n :=
    fun n hn => simple_of_mem_apart n ((inOrder_perm _).mem_iff.mp hn)
  have hback : inOrder (apart (joined (inOrder (apart s)))) = inOrder (apart s) := by
    generalize inOrder (apart s) = line at hchain hsimple ⊢
    cases line with
    | nil => rfl
    | cons n rest =>
      have hjoinable : Joinable [] rest :=
        ⟨fun m hm => hsimple m (List.mem_cons_of_mem n hm), by simp,
          (List.isChain_cons.mp hchain).2⟩
      have hfirst : takeApart mostLayers n = [n] := takeApart_simple (hsimple n List.mem_cons_self)
      rw [joined, inOrder_apart_joinFrom n hjoinable, hfirst]
      exact inOrder_of_isChain hchain
  unfold composed
  rw [hback]

end Joining

section Parting

/-! ### Nothing is joined across a stop. -/

theorem insertMark_append_stop (n : Nat) (s t : List Nat) :
    insertMark n (s ++ stop :: t) = insertMark n s ++ stop :: t := by
  induction s with
  | nil => exact insertMark_stopping (by simp [place_of_ascii stop_ascii]) t
  | cons m rest ih =>
    by_cases hpass : 0 < place m ∧ place m < place n
    · rw [List.cons_append, insertMark_passing hpass, insertMark_passing hpass, ih,
        List.cons_append]
    · rw [List.cons_append, insertMark_stopping hpass, insertMark_stopping hpass, List.cons_append,
        List.cons_append]

theorem insertMark_of_place {n : Nat} (h : place n = 0) (s : List Nat) :
    insertMark n s = n :: s := by
  cases s with
  | nil => rfl
  | cons m rest => exact insertMark_stopping (by omega) rest

theorem inOrder_append_stop (s t : List Nat) :
    inOrder (s ++ stop :: t) = inOrder s ++ stop :: inOrder t := by
  induction s with
  | nil => exact insertMark_of_place (place_of_ascii stop_ascii) _
  | cons n rest ih =>
    calc inOrder (n :: rest ++ stop :: t)
        = insertMark n (inOrder (rest ++ stop :: t)) := rfl
      _ = insertMark n (inOrder rest ++ stop :: inOrder t) := congrArg (insertMark n) ih
      _ = inOrder (n :: rest) ++ stop :: inOrder t := insertMark_append_stop n _ _

theorem joinFrom_of_idle {base : Nat} (h : ∀ b, whole? base b = none) (kept rest : List Nat) :
    joinFrom base kept rest = base :: kept.reverse ++ joined rest := by
  induction rest generalizing base kept with
  | nil => simp [joinFrom, joined]
  | cons n rest ih =>
    unfold joinFrom
    simp only [h, ite_self]
    split_ifs with hn
    · rfl
    · rw [ih h, joined, ih (whole_of_placed hn)]
      simp

theorem joinFrom_append_stop (base : Nat) (kept s t : List Nat) :
    joinFrom base kept (s ++ stop :: t) = joinFrom base kept s ++ stop :: joined t := by
  induction s generalizing base kept with
  | nil =>
    rw [List.nil_append, joinFrom, joinFrom]
    simp only [whole_of_ascii stop_ascii, ite_self, if_pos (place_of_ascii stop_ascii)]
    rw [joinFrom_of_idle whole_stop]
    rfl
  | cons n rest ih =>
    rw [List.cons_append, joinFrom, joinFrom]
    cases (if kept.head?.any (fun m => decide (place n ≤ place m)) = true then none
      else whole? base n) with
    | some whole => exact ih whole kept
    | none =>
      dsimp only
      split_ifs with hn
      · rw [ih n [], List.append_assoc]
      · exact ih base (n :: kept)

theorem composed_append_stop (s t : List Nat) :
    composed (s ++ stop :: t) = composed s ++ stop :: composed t := by
  have hstop : takeApart mostLayers stop = [stop] := takeApart_simple (simple_of_ascii stop_ascii)
  unfold composed
  rw [apart_append, apart_cons, hstop, List.singleton_append, inOrder_append_stop]
  cases inOrder (apart s) with
  | nil => exact joinFrom_of_idle whole_stop [] _
  | cons n rest => exact joinFrom_append_stop n [] rest _

end Parting

section Sharing

variable {Q : Nat → Prop}

theorem Shared.joinFrom (hQ : Shared Q) {base : Nat} {kept rest : List Nat} (hbase : Q base)
    (hkept : ∀ n ∈ kept, Q n) (hrest : ∀ n ∈ rest, Q n) : ∀ n ∈ joinFrom base kept rest, Q n := by
  fun_induction Url.joinFrom base kept rest with
  | case1 base kept => simpa [hbase] using hkept
  | case2 base kept n rest hidden whole hwhole ih =>
    obtain ⟨hn, hlater⟩ := List.forall_mem_cons.mp hrest
    have hjoined : whole? base n = some whole := by
      split_ifs at hwhole
      exact hwhole
    exact ih ((hQ (makes_of_whole hjoined)).mpr ⟨hbase, hn⟩) hkept hlater
  | case3 base kept n rest hidden hwhole hn ih =>
    obtain ⟨hn, hlater⟩ := List.forall_mem_cons.mp hrest
    have hmore := ih hn (by simp) hlater
    intro m hm
    rcases List.mem_append.mp hm with hm | hm
    · rcases List.mem_cons.mp hm with rfl | hm
      · exact hbase
      · exact hkept m (List.mem_reverse.mp hm)
    · exact hmore m hm
  | case4 base kept n rest hidden hwhole hn ih =>
    obtain ⟨hn, hlater⟩ := List.forall_mem_cons.mp hrest
    exact ih hbase (List.forall_mem_cons.mpr ⟨hn, hkept⟩) hlater

theorem Shared.composed (hQ : Shared Q) {s : List Nat} (h : ∀ n ∈ s, Q n) :
    ∀ n ∈ composed s, Q n := by
  have happart : ∀ n ∈ inOrder (apart s), Q n := by
    intro n hn
    obtain ⟨m, hm, hpart⟩ := List.mem_flatMap.mp ((inOrder_perm _).mem_iff.mp hn)
    exact hQ.takeApart (h m hm) n hpart
  unfold Url.composed
  cases hline : inOrder (apart s) with
  | nil => simp [joined]
  | cons n rest =>
    rw [hline] at happart
    obtain ⟨hn, hrest⟩ := List.forall_mem_cons.mp happart
    exact hQ.joinFrom hn (by simp) hrest

end Sharing

section Ascii

variable {s : List Nat}

theorem inOrder_of_ascii (h : ∀ n ∈ s, n ≤ 0x7f) : inOrder s = s := by
  induction s with
  | nil => rfl
  | cons n rest ih =>
    obtain ⟨hn, hrest⟩ := List.forall_mem_cons.mp h
    calc inOrder (n :: rest) = insertMark n (inOrder rest) := rfl
      _ = n :: rest := by rw [ih hrest, insertMark_of_place (place_of_ascii hn)]

theorem joinFrom_of_ascii (h : ∀ n ∈ s, n ≤ 0x7f) (base : Nat) :
    joinFrom base [] s = base :: s := by
  induction s generalizing base with
  | nil => rfl
  | cons n rest ih =>
    obtain ⟨hn, hrest⟩ := List.forall_mem_cons.mp h
    rw [joinFrom]
    simp only [whole_of_ascii hn, ite_self, if_pos (place_of_ascii hn), ih hrest n]
    rfl

theorem composed_of_ascii (h : ∀ n ∈ s, n ≤ 0x7f) : composed s = s := by
  have happart : apart s = s := apart_of_simple fun n hn => simple_of_ascii (h n hn)
  unfold composed
  rw [happart, inOrder_of_ascii h]
  cases s with
  | nil => rfl
  | cons n rest => exact joinFrom_of_ascii (List.forall_mem_cons.mp h).2 n

end Ascii

end Banter.Url
