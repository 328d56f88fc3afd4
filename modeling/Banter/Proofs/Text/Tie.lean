import Banter.Proofs.History
import Banter.Proofs.Text.Mention
import Mathlib.Data.Finset.Lattice.Fold
import Mathlib.Data.List.Nodup

/-!
Names of one length have no order among them, and which of them comes first can show in the text. At
no length does it show, exactly if no name is conjured up by another one of its length.
-/
namespace Banter.Text

variable {names : List (List Char)} {name other w s t a b : List Char}

theorem addressed_addressMention (hname : '@' ∉ name) (hne : name ≠ []) (s : List Char) :
    Addressed [name] s (addressMention name s) := by
  have hnobody := addressed_nobody s
  exact hnobody.snoc (by simp) hname hne (by simp) fun _ hn => absurd hn List.not_mem_nil

theorem Addressed.length_eq (h : Addressed names s t) : t.length = s.length := by
  induction h with
  | nil => rfl
  | mention _ _ ih => simp only [List.length_append, List.length_cons, ih]; omega
  | other _ _ ih => rw [List.length_cons, List.length_cons, ih]

theorem Addressed.at_of_at (h : Addressed names s t) (hnames : ∀ n ∈ names, '@' ∉ n) {i : Nat}
    (hat : t[i]? = some '@') : s[i]? = some '@' := by
  induction h generalizing i with
  | nil => exact hat
  | @mention name rest result hname _ ih =>
    rw [List.getElem?_append] at hat
    split_ifs at hat with hin
    · exact absurd (List.mem_of_getElem? hat) (hnames name hname.mem)
    · obtain ⟨j, rfl⟩ := Nat.exists_eq_add_of_le (Nat.not_lt.mp hin)
      rw [Nat.add_sub_cancel_left] at hat
      cases j with
      | zero => simp at hat
      | succ j =>
        rw [← Nat.add_assoc, List.getElem?_cons_succ, List.getElem?_append_right (by omega),
          Nat.add_sub_cancel_left]
        exact ih hat
  | other _ _ ih =>
    cases i with
    | zero => exact hat
    | succ i => exact ih hat

/-- A name does not reach over an at sign, so both sides of one are rewritten apart. -/
theorem Addressed.append_at {u v : List Char} (ha : Addressed names a u)
    (hb : Addressed names ('@' :: b) v) (hnames : ∀ n ∈ names, '@' ∉ n) :
    Addressed names (a ++ '@' :: b) (u ++ v) := by
  induction ha with
  | nil => exact hb
  | @mention name rest result hname _ ih =>
    have hsplit : '@' :: (name ++ rest) ++ '@' :: b = '@' :: (name ++ (rest ++ '@' :: b)) := by simp
    rw [hsplit, List.append_assoc, List.cons_append]
    refine .mention ⟨hname.mem, hname.ne_nil, List.prefix_append name _, fun other hother h => ?_⟩ ih
    rw [← List.append_assoc, opens_append_cons_iff (hnames other hother)] at h
    exact hname.longest other hother h
  | @other c rest result hc _ ih =>
    refine .other (fun hat n hn hopens => ?_) ih
    exact hc hat n hn ((opens_append_cons_iff (hnames n hn)).mp hopens)

theorem addressMention_append_at (hname : '@' ∉ name) (hne : name ≠ []) (a b : List Char) :
    addressMention name (a ++ '@' :: b) =
      addressMention name a ++ addressMention name ('@' :: b) := by
  have hwhole := addressed_addressMention hname hne (a ++ '@' :: b)
  have hleft := addressed_addressMention hname hne a
  have hright := addressed_addressMention hname hne ('@' :: b)
  exact hwhole.unique (hleft.append_at hright (by simpa using hname))

theorem addressInOrder_append (first second : List (List Char)) (s : List Char) :
    addressInOrder (first ++ second) s = addressInOrder second (addressInOrder first s) := by
  induction first generalizing s with
  | nil => rfl
  | cons name first ih => exact ih _

theorem addressInOrder_cons (hne : name ≠ []) (rest : List (List Char)) (s : List Char) :
    addressInOrder (name :: rest) s = addressInOrder rest (addressMention name s) := by
  rw [addressInOrder, if_neg (by simpa using hne)]

theorem at_of_at_addressInOrder {order : List (List Char)} (horder : ∀ n ∈ order, '@' ∉ n) {i : Nat}
    (hat : (addressInOrder order s)[i]? = some '@') : s[i]? = some '@' := by
  induction order generalizing s with
  | nil => exact hat
  | cons n rest ih =>
    have hstep := ih (fun m hm => horder m (List.mem_cons_of_mem _ hm)) hat
    split_ifs at hstep with hnil
    · exact hstep
    · have hn := horder n List.mem_cons_self
      have hne : n ≠ [] := by simpa using hnil
      exact (addressed_addressMention hn hne s).at_of_at (by simpa using hn) hstep

/-- What comes behind an at sign where dropping the one of `other` would put a name: `other` was not
rewritten yet, or it was. -/
inductive Awaits (w other : List Char) : List Char → Prop
  | kept (rest : List Char) : Awaits w other (w ++ '@' :: (other ++ rest))
  | dropped (rest : List Char) : Awaits w other (w ++ (other ++ ':' :: rest))

theorem Awaits.step {n : List Char} (h : Awaits w other b) (hw : '@' ∉ w) (hother : '@' ∉ other)
    (hlength : n.length = other.length) : Awaits w other (addressMention n b) := by
  cases h with
  | kept rest =>
    rw [addressMention_append hw]
    by_cases hopens : n <+: other ++ rest
    · have hwithin : n <+: other :=
        List.prefix_of_prefix_length_le hopens (List.prefix_append other rest) (Nat.le_of_eq hlength)
      have hsame : n = other := hwithin.eq_of_length hlength
      subst n
      rw [addressMention_at]
      exact .dropped _
    · rw [addressMention_at_other hopens, addressMention_append hother]
      exact .kept _
  | dropped rest =>
    rw [addressMention_append hw, addressMention_append hother, addressMention_cons (by decide)]
    exact .dropped _

theorem Awaits.eq_of_opens {n : List Char} (h : Awaits w other b) (hopens : n <+: b)
    (hn : '@' ∉ n) (hlength : n.length = other.length) (hname : name <+: w ++ other)
    (hnot : ¬ name <+: w) (hsame : name.length = other.length) : n = name := by
  cases h with
  | kept rest =>
    have hshort := ((opens_append_cons_iff hn).mp hopens).length_le
    have hname := List.prefix_of_prefix_length_le hname (List.prefix_append w other) (by omega)
    exact absurd hname hnot
  | dropped rest =>
    have hwhole : w ++ other <+: w ++ (other ++ ':' :: rest) := by simp
    have hwithin := List.prefix_of_prefix_length_le hopens hwhole (by simp; omega)
    have hn := List.prefix_of_prefix_length_le hwithin hname (by omega)
    exact hn.eq_of_length (by omega)

theorem Awaits.at_stays {order : List (List Char)} (h : Awaits w other b)
    (horder : ∀ n ∈ order, '@' ∉ n ∧ n.length = other.length ∧ n ≠ name) (hw : '@' ∉ w)
    (hother : '@' ∉ other) (hname : name <+: w ++ other) (hnot : ¬ name <+: w)
    (hsame : name.length = other.length) (a : List Char) :
    (addressInOrder order (a ++ '@' :: b))[a.length]? = some '@' := by
  induction order generalizing a b with
  | nil => simp [addressInOrder]
  | cons n rest ih =>
    obtain ⟨hat, hlength, hdiffers⟩ := horder n List.mem_cons_self
    have hne : n ≠ [] := by
      rintro rfl
      have hnil : name = [] := List.eq_nil_of_length_eq_zero (hsame.trans hlength.symm)
      exact hnot (hnil ▸ List.nil_prefix)
    have hclosed : ¬ n <+: b := fun hopens =>
      hdiffers (h.eq_of_opens hopens hat hlength hname hnot hsame)
    rw [addressInOrder_cons hne, addressMention_append_at hat hne, addressMention_at_other hclosed,
      ← (addressed_addressMention hat hne a).length_eq]
    exact ih (h.step hw hother hlength) (fun m hm => horder m (List.mem_cons_of_mem _ hm)) _

/-- Where one name conjures up another, two at signs stand so close that the name reaches over the second,
which comes too early for it. -/
theorem Conjures.exists_cut (h : Conjures other name s) (hname : '@' ∉ name) :
    ∃ a w rest, s = a ++ '@' :: (w ++ '@' :: (other ++ rest)) ∧ '@' ∉ w ∧
      w.length < name.length ∧ name <+: w ++ other ∧ ¬ name <+: w := by
  obtain ⟨w, rest, ⟨a, rfl⟩, hreach, hnot⟩ := h
  refine ⟨a, w, rest, rfl, ?_, ?_, hreach, hnot⟩
  · obtain hwithin | hbeyond := List.prefix_or_prefix_of_prefix hreach (List.prefix_append w other)
    · exact absurd hwithin hnot
    · exact fun hat => hname (hbeyond.subset hat)
  · by_contra hlong
    exact hnot (List.prefix_of_prefix_length_le hreach (List.prefix_append w other)
      (Nat.not_lt.mp hlong))

theorem not_opens_of_length_lt (hname : '@' ∉ name) (hshort : w.length < name.length) :
    ¬ name <+: w ++ '@' :: t := fun hopens => by
  have hlong := ((opens_append_cons_iff hname).mp hopens).length_le
  omega

theorem at_stays_of_early {first : List (List Char)}
    (hfirst : ∀ n ∈ first, '@' ∉ n ∧ n.length = other.length ∧ n ≠ name) (hname : '@' ∉ name)
    (hother : '@' ∉ other) (hsame : name.length = other.length) (hw : '@' ∉ w)
    (hshort : w.length < name.length) (hreach : name <+: w ++ other) (hnot : ¬ name <+: w)
    (a rest : List Char) :
    (addressInOrder (name :: first) (a ++ '@' :: (w ++ '@' :: (other ++ rest))))[a.length]? =
      some '@' := by
  have hne : name ≠ [] := List.ne_nil_of_length_pos (by omega)
  have hawaits : Awaits w other (w ++ '@' :: (other ++ rest)) := .kept rest
  rw [addressInOrder_cons hne, addressMention_append_at hname hne,
    addressMention_at_other (not_opens_of_length_lt hname hshort),
    ← (addressed_addressMention hname hne a).length_eq]
  exact (hawaits.step hw hother hsame).at_stays hfirst hw hother hreach hnot hsame _

theorem at_dropped_of_late {second : List (List Char)} (hsecond : ∀ n ∈ second, '@' ∉ n)
    (hname : '@' ∉ name) (hother : '@' ∉ other) (hsame : name.length = other.length) (hw : '@' ∉ w)
    (hshort : w.length < name.length) (hreach : name <+: w ++ other) (a rest : List Char) :
    (addressInOrder (other :: name :: second)
      (a ++ '@' :: (w ++ '@' :: (other ++ rest))))[a.length]? ≠ some '@' := by
  have hne : name ≠ [] := List.ne_nil_of_length_pos (by omega)
  have hne' : other ≠ [] := List.ne_nil_of_length_pos (by omega)
  rw [addressInOrder_cons hne', addressInOrder_cons hne, addressMention_append_at hother hne',
    addressMention_at_other (not_opens_of_length_lt hother (by omega)),
    addressMention_append_at hname hne, addressMention_append hw, addressMention_at]
  intro hat
  have hdropped := at_of_at_addressInOrder hsecond hat
  obtain ⟨more, hmore⟩ : name <+: w ++ (other ++ ':' :: addressMention other rest) := by
    rw [← List.append_assoc]
    exact hreach.trans (List.prefix_append _ _)
  have hlength := (addressed_addressMention hother hne' a).length_eq
  have hlength' := (addressed_addressMention hname hne (addressMention other a)).length_eq
  rw [← hmore, addressMention_at, List.getElem?_append_right (by omega),
    List.getElem?_append_left (by omega)] at hdropped
  exact hname (List.mem_of_getElem? hdropped)

/-- Two names of one length, of which one conjures up the other: who comes first shows, whatever names
come after them. -/
theorem Conjures.orders_differ (h : Conjures other name s) (hname : '@' ∉ name)
    (hother : '@' ∉ other) (hsame : name.length = other.length) {first second : List (List Char)}
    (hfirst : ∀ n ∈ first, '@' ∉ n ∧ n.length = other.length ∧ n ≠ name)
    (hsecond : ∀ n ∈ second, '@' ∉ n) :
    addressInOrder (name :: first) s ≠ addressInOrder (other :: name :: second) s := by
  obtain ⟨a, w, rest, rfl, hw, hshort, hreach, hnot⟩ := h.exists_cut hname
  have hearly := at_stays_of_early hfirst hname hother hsame hw hshort hreach hnot a rest
  intro hequal
  rw [hequal] at hearly
  exact at_dropped_of_late hsecond hname hother hsame hw hshort hreach a rest hearly

/-- The names as the loop may come to them: each once, and none before a longer one. -/
structure Queued (names order : List String) : Prop where
  once : order.Nodup
  mem : ∀ name, name ∈ order ↔ name ∈ names
  down : order.Pairwise fun a b => b.length ≤ a.length

theorem queued_mentionOrder (names : List String) : Queued names (mentionOrder names) where
  once := (List.mergeSort_perm _ _).nodup_iff.mpr (nodup_eraseDups names)
  mem _ := mem_mentionOrder
  down := pairwise_mentionOrder names

/-- What is made of a text once the names of at least so many characters are through. -/
def addressDownTo (least : Nat) (order : List String) (s : List Char) : List Char :=
  addressInOrder ((order.filter fun name => least ≤ name.length).map String.toList) s

variable {words order group : List String} {k : Nat}

theorem filter_le_eq_append (h : order.Pairwise fun a b => b.length ≤ a.length) (k : Nat) :
    order.filter (fun name => k ≤ name.length) =
      order.filter (fun name => k + 1 ≤ name.length) ++
        order.filter fun name => name.length = k := by
  induction order with
  | nil => rfl
  | cons name rest ih =>
    obtain ⟨hfirst, hrest⟩ := List.pairwise_cons.mp h
    have hih := ih hrest
    rcases Nat.lt_trichotomy name.length k with hlt | heq | hgt
    · rw [List.filter_cons_of_neg (by simpa using hlt), List.filter_cons_of_neg (by simp; omega),
        List.filter_cons_of_neg (by simp; omega), hih]
    · have hnone : rest.filter (fun name => k + 1 ≤ name.length) = [] := by
        refine List.filter_eq_nil_iff.mpr fun other hother => ?_
        have := hfirst other hother
        simp
        omega
      rw [hnone, List.nil_append] at hih
      rw [List.filter_cons_of_pos (by simp; omega), List.filter_cons_of_neg (by simp; omega),
        List.filter_cons_of_pos (by simpa using heq), hih, hnone, List.nil_append]
    · rw [List.filter_cons_of_pos (by simp; omega), List.filter_cons_of_pos (by simp; omega),
        List.filter_cons_of_neg (by simp; omega), hih, List.cons_append]

theorem Queued.addressDownTo_eq (h : Queued words order) (k : Nat) (s : List Char) :
    addressDownTo k order s =
      addressInOrder ((order.filter fun name => name.length = k).map String.toList)
        (addressDownTo (k + 1) order s) := by
  rw [addressDownTo, filter_le_eq_append h.down k, List.map_append, addressInOrder_append]
  rfl

theorem Queued.regroup (h : Queued words order)
    (hgroup : group.Perm (order.filter fun name => name.length = k)) :
    Queued words (order.filter (fun name => k + 1 ≤ name.length) ++ group ++
      order.filter fun name => name.length < k) := by
  have hlength : ∀ name, name ∈ group ↔ name ∈ order ∧ name.length = k := fun name => by
    simpa using hgroup.mem_iff (a := name)
  have hgroupOnce : group.Nodup := hgroup.nodup_iff.mpr (h.once.filter _)
  constructor
  · simp only [List.nodup_append, List.mem_append, List.mem_filter, decide_eq_true_eq, hlength]
    refine ⟨⟨h.once.filter _, hgroupOnce, ?_⟩, h.once.filter _, ?_⟩ <;> grind
  · intro name
    simp only [List.mem_append, List.mem_filter, decide_eq_true_eq, hlength, ← h.mem]
    grind
  · simp only [List.pairwise_append, List.mem_append, List.mem_filter, decide_eq_true_eq, hlength]
    refine ⟨⟨h.down.filter _, ?_, ?_⟩, h.down.filter _, ?_⟩
    · refine List.pairwise_of_forall_mem_list fun a ha b hb => ?_
      rw [((hlength a).mp ha).2, ((hlength b).mp hb).2]
    · grind
    · grind

theorem addressDownTo_regroup (hgroup : ∀ name ∈ group, name.length = k) (s : List Char) :
    addressDownTo k (order.filter (fun name => k + 1 ≤ name.length) ++ group ++
        order.filter fun name => name.length < k) s =
      addressInOrder (group.map String.toList) (addressDownTo (k + 1) order s) := by
  have hall : group.filter (fun name => k ≤ name.length) = group :=
    List.filter_eq_self.mpr fun name hname => by simp [hgroup name hname]
  have hlong : (order.filter fun name => k + 1 ≤ name.length).filter (fun name => k ≤ name.length) =
      order.filter fun name => k + 1 ≤ name.length := by
    refine List.filter_eq_self.mpr fun name hname => ?_
    have := of_decide_eq_true (List.mem_filter.mp hname).2
    simp
    omega
  have hshort : (order.filter fun name => name.length < k).filter (fun name => k ≤ name.length) =
      [] := by
    refine List.filter_eq_nil_iff.mpr fun name hname => ?_
    have := of_decide_eq_true (List.mem_filter.mp hname).2
    simp
    omega
  rw [addressDownTo, List.filter_append, List.filter_append, hall, hlong, hshort, List.append_nil,
    List.map_append, addressInOrder_append]
  rfl

/-- No name is conjured up by another one of its length when their turn comes. -/
def Unconjured (names : List String) (s : List Char) : Prop :=
  ∀ name ∈ names, ∀ other ∈ names, name ≠ other → name.length = other.length →
    ¬ Conjures other.toList name.toList
      (addressDownTo (name.length + 1) (mentionOrder names) s)

theorem addressed_group (hgroup : ∀ name ∈ group, '@' ∉ name.toList ∧ name.length = k)
    (honce : group.Nodup) (hfree : ∀ name ∈ group, ∀ other ∈ group, name ≠ other →
      ¬ Conjures other.toList name.toList s) :
    Addressed (group.map String.toList) s (addressInOrder (group.map String.toList) s) := by
  refine (addressed_nobody s).inOrder_of_unconjured ?_ ?_ (by simp) ?_
  · refine List.pairwise_map.mpr (List.pairwise_of_forall_mem_list fun a ha b hb => ?_)
    rw [String.length_toList, String.length_toList, (hgroup a ha).2, (hgroup b hb).2]
  · simpa using fun name hname => (hgroup name hname).1
  · refine List.pairwise_map.mpr (honce.imp_of_mem fun hother hname hne => ?_)
    exact hfree _ hname _ hother hne.symm

theorem addressInOrder_perm {group' : List String} (hperm : group.Perm group')
    (hgroup : ∀ name ∈ group, '@' ∉ name.toList ∧ name.length = k) (honce : group.Nodup)
    (hfree : ∀ name ∈ group, ∀ other ∈ group, name ≠ other →
      ¬ Conjures other.toList name.toList s) :
    addressInOrder (group.map String.toList) s = addressInOrder (group'.map String.toList) s := by
  have hone := addressed_group hgroup honce hfree
  have hother := addressed_group (fun name hname => hgroup name (hperm.mem_iff.mpr hname))
    (hperm.nodup_iff.mp honce) fun name hname other hother =>
      hfree name (hperm.mem_iff.mpr hname) other (hperm.mem_iff.mpr hother)
  refine hone.unique (hother.congr fun name _ => ?_)
  simp [hperm.mem_iff]

theorem Unconjured.addressDownTo_eq {first second : List String} (h : Unconjured words s)
    (hwords : ∀ name ∈ words, '@' ∉ name.toList) (hfirst : Queued words first)
    (hsecond : Queued words second) (k : Nat) :
    addressDownTo k first s = addressDownTo k second s := by
  -- The induction goes down from a length that no name reaches.
  have hlongest : ∀ order, Queued words order → ∀ name ∈ order,
      name.length ≤ words.toFinset.sup String.length := fun order horder name hname =>
    Finset.le_sup (f := String.length) (List.mem_toFinset.mpr ((horder.mem name).mp hname))
  obtain ⟨steps, hsteps⟩ : ∃ steps, words.toFinset.sup String.length < k + steps :=
    ⟨words.toFinset.sup String.length + 1, by omega⟩
  induction steps generalizing k first second with
  | zero =>
    have hnone : ∀ order, Queued words order → addressDownTo k order s = s := by
      intro order horder
      have hfiltered : order.filter (fun name => k ≤ name.length) = [] := by
        refine List.filter_eq_nil_iff.mpr fun name hname => ?_
        have := hlongest order horder name hname
        simp
        omega
      rw [addressDownTo, hfiltered]
      rfl
    rw [hnone first hfirst, hnone second hsecond]
  | succ steps ih =>
    have hlonger := ih hfirst hsecond (k + 1) (by omega)
    have hcanonical := ih hfirst (queued_mentionOrder words) (k + 1) (by omega)
    have hperm : (first.filter fun name => name.length = k).Perm
        (second.filter fun name => name.length = k) := by
      rw [List.perm_ext_iff_of_nodup (hfirst.once.filter _) (hsecond.once.filter _)]
      simp [hfirst.mem, hsecond.mem]
    have hgroup : ∀ name ∈ first.filter fun name => name.length = k,
        name ∈ words ∧ name.length = k := fun name hname => by
      simpa [hfirst.mem] using hname
    have hplain : ∀ name ∈ first.filter fun name => name.length = k,
        '@' ∉ name.toList ∧ name.length = k := fun name hname =>
      ⟨hwords name (hgroup name hname).1, (hgroup name hname).2⟩
    rw [hfirst.addressDownTo_eq, hsecond.addressDownTo_eq, ← hlonger]
    refine addressInOrder_perm hperm hplain (hfirst.once.filter _) fun name hname other hother => ?_
    obtain ⟨hthere, rfl⟩ := hgroup name hname
    obtain ⟨hthere', hlength⟩ := hgroup other hother
    rw [hcanonical]
    exact fun hne => h name hthere other hthere' hne hlength.symm

theorem Conjures.addressDownTo_differs {name other : String} {words : List String}
    (hwords : ∀ name ∈ words, '@' ∉ name.toList) (hname : name ∈ words) (hother : other ∈ words)
    (hne : name ≠ other) (hlength : name.length = other.length)
    (h : Conjures other.toList name.toList
      (addressDownTo (name.length + 1) (mentionOrder words) s)) :
    ∃ first second, Queued words first ∧ Queued words second ∧
      addressDownTo name.length first s ≠ addressDownTo name.length second s := by
  have hqueued := queued_mentionOrder words
  set order := mentionOrder words
  set group := order.filter fun n => n.length = name.length with hgroup
  have hmem : ∀ n, n ∈ group ↔ n ∈ words ∧ n.length = name.length := fun n => by
    simp [hgroup, hqueued.mem]
  have honce : group.Nodup := hqueued.once.filter _
  have hfirst : (name :: group.erase name).Perm group :=
    (List.perm_cons_erase ((hmem name).mpr ⟨hname, rfl⟩)).symm
  have hsecond : (other :: name :: (group.erase other).erase name).Perm group := by
    have hin : name ∈ group.erase other :=
      (List.mem_erase_of_ne hne).mpr ((hmem name).mpr ⟨hname, rfl⟩)
    exact ((List.perm_cons_erase hin).symm.cons other).trans
      (List.perm_cons_erase ((hmem other).mpr ⟨hother, hlength.symm⟩)).symm
  refine ⟨_, _, hqueued.regroup hfirst, hqueued.regroup hsecond, ?_⟩
  rw [addressDownTo_regroup fun n hn => ((hmem n).mp (hfirst.mem_iff.mp hn)).2,
    addressDownTo_regroup fun n hn => ((hmem n).mp (hsecond.mem_iff.mp hn)).2]
  have hlength' : name.toList.length = other.toList.length := by
    rwa [String.length_toList, String.length_toList]
  refine h.orders_differ (hwords name hname) (hwords other hother) hlength' ?_ ?_
  · intro n hn
    obtain ⟨m, hm, rfl⟩ := List.mem_map.mp hn
    obtain ⟨hnot, hin⟩ := (honce.mem_erase_iff).mp hm
    obtain ⟨hin, hsame⟩ := (hmem m).mp hin
    refine ⟨hwords m hin, ?_, fun heq => hnot (String.toList_inj.mp heq)⟩
    rw [String.length_toList, String.length_toList, hsame, hlength]
  · intro n hn
    obtain ⟨m, hm, rfl⟩ := List.mem_map.mp hn
    exact hwords m ((hmem m).mp (List.mem_of_mem_erase (List.mem_of_mem_erase hm))).1

/-- Where no name has an at sign, names of one length may come in any order exactly if none of them
is conjured up by another one. -/
theorem tie_orders_agree_iff (text : String) (names : List String)
    (hnames : ∀ name ∈ names, '@' ∉ name.toList) :
    ((∀ (least : Nat) (first second : List String), Queued names first → Queued names second →
        addressDownTo least first text.toList = addressDownTo least second text.toList) ↔
      Unconjured names text.toList) ∧
    (Unconjured names text.toList → ∀ order, Queued names order →
      String.ofList (addressInOrder (order.map String.toList) text.toList) =
        addressMentions text names) := by
  refine ⟨⟨fun hsame name hname other hother hne hlength hconjured => ?_, ?_⟩, ?_⟩
  · obtain ⟨first, second, hfirst, hsecond, hdiffer⟩ :=
      hconjured.addressDownTo_differs hnames hname hother hne hlength
    exact hdiffer (hsame _ first second hfirst hsecond)
  · intro hfree least first second hfirst hsecond
    exact hfree.addressDownTo_eq hnames hfirst hsecond least
  · intro hfree order horder
    have hall : ∀ order : List String, order.filter (fun name => 0 ≤ name.length) = order :=
      fun order => List.filter_eq_self.mpr fun _ _ => by simp
    have hsame := hfree.addressDownTo_eq hnames horder (queued_mentionOrder names) 0
    rw [addressDownTo, addressDownTo, hall, hall] at hsame
    rw [hsame, addressMentions]

/-- Two who are both called here, one of them only if the other one is answered first. -/
theorem tie_orders_of_muddle :
    (∀ name ∈ ["ab", "ba"], '@' ∉ name.toList) ∧
      String.ofList (addressInOrder (["ab", "ba"].map String.toList) "@a@ba!".toList) = "@aba:!" ∧
      String.ofList (addressInOrder (["ba", "ab"].map String.toList) "@a@ba!".toList) = "ab:a:!" ∧
      ¬ Unconjured ["ab", "ba"] "@a@ba!".toList := by
  have hnames : ∀ name ∈ ["ab", "ba"], '@' ∉ name.toList := by decide
  have hqueued : Queued ["ab", "ba"] ["ab", "ba"] := ⟨by decide, by simp, by decide⟩
  have hturned : Queued ["ab", "ba"] ["ba", "ab"] := ⟨by decide, by simp [or_comm], by decide⟩
  refine ⟨hnames, by decide, by decide, fun hfree => ?_⟩
  have hsame := (tie_orders_agree_iff "@a@ba!" ["ab", "ba"] hnames).1.mpr hfree 2 _ _ hqueued hturned
  exact absurd hsame (by decide)

end Banter.Text
