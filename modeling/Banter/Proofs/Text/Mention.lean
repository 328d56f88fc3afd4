import Banter.Text.Mention
import Mathlib.Data.List.Infix
import Mathlib.Tactic.SplitIfs

/-!
Mentions go by the longest name. Names are rewritten one after the other, longer ones first, and what
comes of it is told in one pass over the text, as long as two at signs are kept apart by a character
that is in no name.
-/
namespace Banter.Text

variable {names done : List (List Char)} {name s t : List Char}

/-- The longest of the names that a text starts with. The empty name is nobody's. -/
structure LongestName (names : List (List Char)) (name s : List Char) : Prop where
  mem : name ∈ names
  ne_nil : name ≠ []
  opens : name <+: s
  longest : ∀ other ∈ names, other <+: s → other.length ≤ name.length

/-- An at sign in front of names is dropped, and a colon follows the longest of them. All else stays
as it is. -/
inductive Addressed (names : List (List Char)) : List Char → List Char → Prop
  | nil : Addressed names [] []
  | mention {name rest result : List Char} (hname : LongestName names name (name ++ rest))
    (h : Addressed names rest result) :
    Addressed names ('@' :: (name ++ rest)) (name ++ ':' :: result)
  | other {c : Char} {rest result : List Char}
    (hc : c = '@' → ∀ name ∈ names, name <+: rest → name = [])
    (h : Addressed names rest result) : Addressed names (c :: rest) (c :: result)

theorem Addressed.unique {u : List Char} (ht : Addressed names s t) (hu : Addressed names s u) :
    t = u := by
  induction ht generalizing u with
  | nil =>
    cases hu
    rfl
  | @mention name rest result hname _ ih =>
    generalize hs : '@' :: (name ++ rest) = s at hu
    cases hu with
    | nil => cases hs
    | @mention other rest' _ hother hu =>
      have hsame := (List.cons.inj hs).2
      have hlength : name.length = other.length :=
        Nat.le_antisymm (hother.longest name hname.mem (hsame ▸ hname.opens))
          (hname.longest other hother.mem (hsame ▸ hother.opens))
      obtain ⟨rfl, rfl⟩ := List.append_inj hsame hlength
      rw [ih hu]
    | other hc =>
      obtain ⟨rfl, rfl⟩ := List.cons.inj hs
      exact absurd (hc rfl name hname.mem hname.opens) hname.ne_nil
  | @other c rest result hc _ ih =>
    generalize hs : c :: rest = s at hu
    cases hu with
    | nil => cases hs
    | @mention name _ _ hname =>
      obtain ⟨rfl, rfl⟩ := List.cons.inj hs
      exact absurd (hc rfl name hname.mem hname.opens) hname.ne_nil
    | other _ hu =>
      obtain ⟨rfl, rfl⟩ := List.cons.inj hs
      rw [ih hu]

theorem Addressed.congr {names' : List (List Char)}
    (hsame : ∀ name, name ≠ [] → (name ∈ names ↔ name ∈ names')) (h : Addressed names s t) :
    Addressed names' s t := by
  induction h with
  | nil => exact .nil
  | mention hname _ ih =>
    refine .mention ⟨(hsame _ hname.ne_nil).mp hname.mem, hname.ne_nil, hname.opens, ?_⟩ ih
    intro other hother hopens
    by_cases hnil : other = []
    · subst other
      exact Nat.zero_le _
    · exact hname.longest other ((hsame other hnil).mpr hother) hopens
  | other hc _ ih =>
    refine .other (fun hat name hname hopens => ?_) ih
    by_contra hnil
    exact hnil (hc hat name ((hsame name hnil).mpr hname) hopens)

theorem addressed_nobody (s : List Char) : Addressed [] s s := by
  induction s with
  | nil => exact .nil
  | cons c s ih => exact .other (fun _ _ hname => absurd hname List.not_mem_nil) ih

theorem Addressed.exists_append {a : List Char} (ha : '@' ∉ a) (h : Addressed names (a ++ s) t) :
    ∃ u, t = a ++ u ∧ Addressed names s u := by
  induction a generalizing t with
  | nil => exact ⟨t, rfl, h⟩
  | cons c a ih =>
    obtain ⟨hc, ha⟩ := List.ne_and_not_mem_of_not_mem_cons ha
    generalize hs : c :: a ++ s = whole at h
    cases h with
    | nil => cases hs
    | mention => exact absurd (List.cons.inj hs).1.symm hc
    | other _ h =>
      obtain ⟨rfl, rfl⟩ := List.cons.inj hs
      obtain ⟨u, rfl, hu⟩ := ih ha h
      exact ⟨u, rfl, hu⟩

theorem replaceFrom_eq_drop (old new : List Char) (n : Nat) (s : List Char) :
    replaceFrom old new n s = replaceFrom old new 0 (s.drop n) := by
  induction s generalizing n with
  | nil => simp [replaceFrom]
  | cons c s ih =>
    cases n with
    | zero => rfl
    | succ n => exact ih n

theorem addressMention_cons {c : Char} (hc : c ≠ '@') (name s : List Char) :
    addressMention name (c :: s) = c :: addressMention name s := by
  have hno : ¬ ('@' :: name).isPrefixOf (c :: s) = true := by
    simp [List.isPrefixOf, Ne.symm hc]
  rw [addressMention, replaceFrom, if_neg hno]
  rfl

theorem addressMention_append {a : List Char} (ha : '@' ∉ a) (name s : List Char) :
    addressMention name (a ++ s) = a ++ addressMention name s := by
  induction a with
  | nil => rfl
  | cons c a ih =>
    obtain ⟨hc, ha⟩ := List.ne_and_not_mem_of_not_mem_cons ha
    rw [List.cons_append, addressMention_cons (Ne.symm hc), ih ha, List.cons_append]

theorem addressMention_at (name s : List Char) :
    addressMention name ('@' :: (name ++ s)) = name ++ ':' :: addressMention name s := by
  have hfound : ('@' :: name).isPrefixOf ('@' :: (name ++ s)) = true := by
    rw [List.isPrefixOf_iff_prefix, List.prefix_cons_inj]
    exact List.prefix_append name s
  have hpassed : (name ++ s).drop (('@' :: name).length - 1) = s := by simp
  rw [addressMention, replaceFrom, if_pos hfound, replaceFrom_eq_drop, hpassed, List.append_assoc]
  rfl

theorem addressMention_at_other (h : ¬ name <+: s) :
    addressMention name ('@' :: s) = '@' :: addressMention name s := by
  have hno : ¬ ('@' :: name).isPrefixOf ('@' :: s) = true := by
    rwa [List.isPrefixOf_iff_prefix, List.prefix_cons_inj]
  rw [addressMention, replaceFrom, if_neg hno]
  rfl

/-- Dropping the at sign of `other` puts the name behind an at sign where it did not stand before. -/
def Conjures (other name s : List Char) : Prop :=
  ∃ w rest, '@' :: (w ++ '@' :: (other ++ rest)) <:+ s ∧ name <+: w ++ other ∧ ¬ name <+: w

theorem Conjures.of_suffix {other : List Char} (h : Conjures other name t) (ht : t <:+ s) :
    Conjures other name s := by
  obtain ⟨w, rest, hthere, hopens, hnot⟩ := h
  exact ⟨w, rest, hthere.trans ht, hopens, hnot⟩

theorem opens_append_cons_iff {a : List Char} {c : Char} (hname : c ∉ name) :
    name <+: a ++ c :: s ↔ name <+: a := by
  constructor
  · intro h
    obtain hwithin | ⟨beyond, rfl⟩ := List.prefix_or_prefix_of_prefix h (List.prefix_append a _)
    · exact hwithin
    · rw [List.prefix_append_right_inj] at h
      cases beyond with
      | nil => rw [List.append_nil]
      | cons d beyond =>
        obtain ⟨rfl, -⟩ := List.cons_prefix_cons.mp h
        simp at hname
  · intro h
    exact h.trans (List.prefix_append a _)

/-- What was rewritten so far does not change who is mentioned at an at sign that is left, unless a
mention was conjured up. -/
theorem Addressed.opens_iff (h : Addressed done s t) (hname : '@' ∉ name)
    (hshort : ∀ n ∈ done, name.length ≤ n.length)
    (hfree : ∀ n ∈ done, ¬ Conjures n name ('@' :: s)) : name <+: t ↔ name <+: s := by
  constructor
  · intro hopens
    by_cases hat : '@' ∈ s
    · -- Up to the next at sign both are the same.
      obtain ⟨a, rest, rfl, ha⟩ := List.eq_append_cons_of_mem hat
      obtain ⟨u, rfl, hu⟩ := h.exists_append ha
      rw [opens_append_cons_iff hname]
      generalize hs : '@' :: rest = s at hu
      cases hu with
      | nil => cases hs
      | @mention other more result hother =>
        by_contra hnot
        obtain ⟨-, rfl⟩ := List.cons.inj hs
        have hlength := hshort other hother.mem
        have hreach : name <+: a ++ other := by
          refine List.prefix_of_prefix_length_le hopens ?_ (by simp; omega)
          rw [List.prefix_append_right_inj]
          exact List.prefix_append other _
        exact hfree other hother.mem ⟨a, more, List.suffix_refl _, hreach, hnot⟩
      | other =>
        obtain ⟨rfl, -⟩ := List.cons.inj hs
        exact (opens_append_cons_iff hname).mp hopens
    · have hend : Addressed done (s ++ []) t := by rwa [List.append_nil]
      obtain ⟨u, rfl, hu⟩ := hend.exists_append hat
      cases hu
      rwa [List.append_nil] at hopens
  · rintro ⟨more, rfl⟩
    obtain ⟨u, rfl, -⟩ := h.exists_append hname
    exact List.prefix_append name u

theorem LongestName.snoc {other : List Char} (h : LongestName done name s)
    (hshort : other.length ≤ name.length) : LongestName (done ++ [other]) name s where
  mem := List.mem_append_left _ h.mem
  ne_nil := h.ne_nil
  opens := h.opens
  longest n hn hopens := by
    obtain hn | hn := List.mem_append.mp hn
    · exact h.longest n hn hopens
    · rwa [List.mem_singleton.mp hn]

theorem Addressed.snoc (h : Addressed done s t) (hdone : ∀ n ∈ done, '@' ∉ n)
    (hname : '@' ∉ name) (hne : name ≠ []) (hshort : ∀ n ∈ done, name.length ≤ n.length)
    (hfree : ∀ n ∈ done, ¬ Conjures n name s) :
    Addressed (done ++ [name]) s (addressMention name t) := by
  induction h with
  | nil => exact .nil
  | @mention longer rest result hlonger _ ih =>
    have hrest : rest <:+ '@' :: (longer ++ rest) := List.suffix_append ('@' :: longer) rest
    have hcolon : addressMention name (':' :: result) = ':' :: addressMention name result :=
      addressMention_cons (by decide) name result
    rw [addressMention_append (hdone longer hlonger.mem), hcolon]
    exact .mention (hlonger.snoc (hshort longer hlonger.mem))
      (ih fun n hn hconjured => hfree n hn (hconjured.of_suffix hrest))
  | @other c rest result hc h ih =>
    have hstep :=
      ih fun n hn hconjured => hfree n hn (hconjured.of_suffix (List.suffix_cons c rest))
    by_cases hat : c = '@'
    · subst c
      have hopens := h.opens_iff hname hshort hfree
      by_cases hmentioned : name <+: rest
      · obtain ⟨more, rfl⟩ := hmentioned
        obtain ⟨u, rfl, -⟩ := h.exists_append hname
        rw [addressMention_append hname] at hstep
        obtain ⟨v, hv, hmore⟩ := hstep.exists_append hname
        rw [addressMention_at, List.append_cancel_left hv]
        refine .mention ⟨by simp, hne, List.prefix_append name more, ?_⟩ hmore
        -- None of the names before was there, so this one is the longest.
        intro n hn hopen
        obtain hn | hn := List.mem_append.mp hn
        · rw [hc rfl n hn hopen]
          exact Nat.zero_le _
        · rw [List.mem_singleton.mp hn]
      · rw [addressMention_at_other (mt hopens.mp hmentioned)]
        refine .other (fun _ n hn hopen => ?_) hstep
        obtain hn | hn := List.mem_append.mp hn
        · exact hc rfl n hn hopen
        · rw [List.mem_singleton.mp hn] at hopen
          exact absurd hopen hmentioned
    · rw [addressMention_cons hat]
      exact .other (fun h => absurd h hat) hstep

/-- Names in any order that goes down in length, as long as none is conjured up by one before it. -/
theorem Addressed.inOrder_of_unconjured {order : List (List Char)} (h : Addressed done s t)
    (hdown : (done ++ order).Pairwise fun a b => b.length ≤ a.length)
    (hnames : ∀ n ∈ done ++ order, '@' ∉ n)
    (hdone : ∀ n ∈ order, ∀ other ∈ done, ¬ Conjures other n s)
    (horder : order.Pairwise fun other n => ¬ Conjures other n s) :
    Addressed (done ++ order) s (addressInOrder order t) := by
  induction order generalizing done t with
  | nil => rwa [List.append_nil]
  | cons name rest ih =>
    have hsplit : done ++ name :: rest = done ++ [name] ++ rest := by simp
    obtain ⟨hfirst, hrest⟩ := List.pairwise_cons.mp horder
    have hstep : Addressed (done ++ [name]) s
        (if name.isEmpty then t else addressMention name t) := by
      split_ifs with hnil
      · rw [List.isEmpty_iff] at hnil
        refine h.congr fun n hn => ?_
        simp [hnil, hn]
      · have hshort : ∀ n ∈ done, name.length ≤ n.length :=
          fun n hn => (List.pairwise_append.mp hdown).2.2 n hn name List.mem_cons_self
        exact h.snoc (fun n hn => hnames n (List.mem_append_left _ hn)) (hnames name (by simp))
          (by simpa using hnil) hshort (hdone name List.mem_cons_self)
    rw [hsplit] at hdown hnames ⊢
    refine ih hstep hdown hnames (fun n hn other hother => ?_) hrest
    obtain hother | hother := List.mem_append.mp hother
    · exact hdone n (List.mem_cons_of_mem _ hn) other hother
    · rw [List.mem_singleton.mp hother]
      exact hfirst n hn

/-- Between any two at signs there is a character that is not in the name. -/
def KeepsApart (name s : List Char) : Prop :=
  ∀ between, '@' :: (between ++ ['@']) <:+: s → ∃ c ∈ between, c ∉ name

theorem KeepsApart.not_conjures (h : KeepsApart name s) (other : List Char) :
    ¬ Conjures other name s := by
  rintro ⟨w, rest, hthere, hopens, hnot⟩
  have hbetween : '@' :: (w ++ ['@']) <:+: s :=
    List.IsInfix.trans ⟨[], other ++ rest, by simp⟩ hthere.isInfix
  obtain ⟨c, hc, hname⟩ := h w hbetween
  obtain hwithin | hbeyond := List.prefix_or_prefix_of_prefix hopens (List.prefix_append w other)
  · exact hnot hwithin
  · exact hname (hbeyond.subset hc)

theorem Addressed.inOrder {order : List (List Char)} (h : Addressed done s t)
    (hdown : (done ++ order).Pairwise fun a b => b.length ≤ a.length)
    (hnames : ∀ n ∈ done ++ order, '@' ∉ n) (hapart : ∀ n ∈ order, KeepsApart n s) :
    Addressed (done ++ order) s (addressInOrder order t) := by
  refine h.inOrder_of_unconjured hdown hnames (fun n hn other _ => ?_) ?_
  · exact (hapart n hn).not_conjures other
  · exact List.pairwise_of_forall_mem_list fun other _ n hn => (hapart n hn).not_conjures other

theorem mem_mentionOrder {names : List String} {name : String} :
    name ∈ mentionOrder names ↔ name ∈ names := by
  rw [mentionOrder, List.mem_mergeSort, List.mem_eraseDups]

theorem pairwise_mentionOrder (names : List String) :
    (mentionOrder names).Pairwise fun a b => b.length ≤ a.length := by
  have hsorted : (mentionOrder names).Pairwise fun a b => decide (b.length ≤ a.length) = true := by
    apply List.pairwise_mergeSort
    · intro a b c hab hbc
      simp only [decide_eq_true_eq] at hab hbc ⊢
      omega
    · intro a b
      simp only [Bool.or_eq_true, decide_eq_true_eq]
      omega
  exact hsorted.imp fun h => of_decide_eq_true h

/-- Where no name has an at sign, and a character of no name stands between any two at signs, the
longest name behind an at sign is addressed. -/
theorem mentions_by_longest (text : String) (names : List String)
    (hnames : ∀ name ∈ names, '@' ∉ name.toList)
    (hapart : ∀ between, '@' :: (between ++ ['@']) <:+: text.toList →
      ∃ c ∈ between, ∀ name ∈ names, c ∉ name.toList) :
    (∀ result : String, Addressed (names.map String.toList) text.toList result.toList ↔
      addressMentions text names = result) ∧
    ∀ order : List String, (∀ name, name ∈ order ↔ name ∈ names) →
      order.Pairwise (fun a b => b.length ≤ a.length) →
      String.ofList (addressInOrder (order.map String.toList) text.toList) =
        addressMentions text names := by
  have hany : ∀ order : List String, (∀ name, name ∈ order ↔ name ∈ names) →
      order.Pairwise (fun a b => b.length ≤ a.length) →
      Addressed (names.map String.toList) text.toList
        (addressInOrder (order.map String.toList) text.toList) := by
    intro order hsame hdown
    have hat : ∀ n ∈ order.map String.toList, '@' ∉ n := by
      intro n hn
      obtain ⟨name, hname, rfl⟩ := List.mem_map.mp hn
      exact hnames name ((hsame name).mp hname)
    have hkeeps : ∀ n ∈ order.map String.toList, KeepsApart n text.toList := by
      intro n hn between hbetween
      obtain ⟨name, hname, rfl⟩ := List.mem_map.mp hn
      obtain ⟨c, hc, hno⟩ := hapart between hbetween
      exact ⟨c, hc, hno name ((hsame name).mp hname)⟩
    have hlengths : (order.map String.toList).Pairwise fun a b => b.length ≤ a.length :=
      List.pairwise_map.mpr (by simpa only [String.length_toList] using hdown)
    refine ((addressed_nobody text.toList).inOrder hlengths hat hkeeps).congr fun n _ => ?_
    simp only [List.nil_append, List.mem_map, hsame]
  have hsorted := hany (mentionOrder names) (fun _ => mem_mentionOrder) (pairwise_mentionOrder names)
  refine ⟨fun result => ?_, fun order hsame hdown => ?_⟩
  · rw [addressMentions, ← String.toList_inj, String.toList_ofList]
    constructor
    · intro h
      exact hsorted.unique h
    · intro h
      rwa [← h]
  · rw [addressMentions, (hany order hsame hdown).unique hsorted]

/-- A call across a market, and who is there. -/
def hail : String := "@Bobby! @Bob, @Bo and @Boris? Ask al@Al."

def crowd : List String := ["Bo", "Bob", "", "Al", "Bobby", "Bob"]

/-- Boris is not there, but Bo is. -/
theorem hail_by_longest :
    addressMentions hail crowd = "Bobby:! Bob:, Bo: and Bo:ris? Ask alAl:." ∧
      Addressed (crowd.map String.toList) hail.toList
        "Bobby:! Bob:, Bo: and Bo:ris? Ask alAl:.".toList := by
  have hpieces : ∀ suffix ∈ hail.toList.tails, suffix.head? = some '@' →
      ∀ piece ∈ suffix.inits, piece.tail.getLast? = some '@' →
        ' ' ∈ piece.tail.dropLast := by decide +kernel
  have hapart : ∀ between, '@' :: (between ++ ['@']) <:+: hail.toList →
      ∃ c ∈ between, ∀ name ∈ crowd, c ∉ name.toList := by
    intro between hbetween
    obtain ⟨suffix, ⟨rest, rfl⟩, hsuffix⟩ := List.infix_iff_prefix_suffix.mp hbetween
    have htail : '@' :: (between ++ ['@']) ++ rest ∈ hail.toList.tails :=
      (List.mem_tails _ _).mpr hsuffix
    have hinit : '@' :: (between ++ ['@']) ∈ ('@' :: (between ++ ['@']) ++ rest).inits :=
      (List.mem_inits _ _).mpr (List.prefix_append _ _)
    have hspace : ' ' ∈ between := by simpa using hpieces _ htail rfl _ hinit (by simp)
    exact ⟨' ', hspace, by decide +kernel⟩
  obtain ⟨hresult, horder⟩ := mentions_by_longest hail crowd (by decide +kernel) hapart
  have hthere : ∀ name ∈ ["Bobby", "Bob", "Bo", "Al", ""], name ∈ crowd := by decide
  have hall : ∀ name ∈ crowd, name ∈ ["Bobby", "Bob", "Bo", "Al", ""] := by decide
  have hgiven := horder ["Bobby", "Bob", "Bo", "Al", ""]
    (fun name => ⟨hthere name, hall name⟩) (by decide)
  have hcomputed : String.ofList (addressInOrder
      (["Bobby", "Bob", "Bo", "Al", ""].map String.toList) hail.toList) =
        "Bobby:! Bob:, Bo: and Bo:ris? Ask alAl:." := by decide +kernel
  have hdone : addressMentions hail crowd = "Bobby:! Bob:, Bo: and Bo:ris? Ask alAl:." :=
    hgiven.symm.trans hcomputed
  exact ⟨hdone, (hresult _).mpr hdone⟩

end Banter.Text
