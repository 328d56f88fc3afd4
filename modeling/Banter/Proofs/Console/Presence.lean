import Banter.Proofs.Console.Parsing
import Banter.Proofs.Json.Member
import Mathlib.Algebra.Order.Group.Defs
import Mathlib.Algebra.Order.Ring.Rat

/-!
Who is present at a console. The roster is told by the lines alone: to look at it forgets names, but
none that any later look would show.
-/
namespace Banter

section Assigning

variable {α β : Type} [DecidableEq α]

theorem Json.mem_assign_iff {fields : List (α × β)} {k key : α} {v value : β} :
    (key, value) ∈ assign fields k v ↔
      (key = k ∧ value = v) ∨ (key ≠ k ∧ (key, value) ∈ fields) := by
  unfold assign
  split_ifs with hthere
  · obtain ⟨⟨k', w⟩, hmem, hk⟩ := List.any_eq_true.mp hthere
    obtain rfl : k' = k := of_decide_eq_true hk
    rw [List.mem_map]
    constructor
    · rintro ⟨p, hp, heq⟩
      split_ifs at heq with hkey
      · obtain ⟨rfl, rfl⟩ := Prod.mk.inj heq
        exact .inl ⟨rfl, rfl⟩
      · subst heq
        exact .inr ⟨hkey, hp⟩
    · rintro (⟨rfl, rfl⟩ | ⟨hkey, hp⟩)
      · exact ⟨_, hmem, if_pos rfl⟩
      · exact ⟨_, hp, if_neg hkey⟩
  · have hfresh : (key, value) ∈ fields → key ≠ k := by
      rintro hp rfl
      exact hthere (List.any_eq_true.mpr ⟨_, hp, decide_eq_true rfl⟩)
    rw [List.mem_append, List.mem_singleton, Prod.mk.injEq, or_comm]
    exact or_congr_right ⟨fun hp => ⟨hfresh hp, hp⟩, And.right⟩

theorem Json.map_fst_assign (fields : List (α × β)) (k : α) (v : β) :
    (assign fields k v).map Prod.fst =
      if k ∈ fields.map Prod.fst then fields.map Prod.fst else fields.map Prod.fst ++ [k] := by
  have hthere : fields.any (·.1 = k) = true ↔ k ∈ fields.map Prod.fst := by
    simp
  unfold assign
  simp only [hthere]
  split_ifs with hk
  · rw [List.map_map]
    apply List.map_congr_left
    intro p _
    simp only [Function.comp_apply]
    split_ifs with hp
    · exact hp.symm
    · rfl
  · rw [List.map_append]
    rfl

end Assigning

namespace Console

variable {τ : Type}

inductive Command (τ : Type) where
  | read (now : τ) (raw : String)
  | look (now : τ)

namespace Command

def time : Command τ → τ
  | read now _ => now
  | look now => now

def line? : Command τ → Option (String × τ)
  | read now raw => (parse? raw).map fun e => (e.sender, now)
  | look _ => none

end Command

/-- The names and the times of the lines that are accepted. -/
def lines (commands : List (Command τ)) : List (String × τ) :=
  commands.filterMap Command.line?

variable [AddCommGroup τ] [LinearOrder τ]

def step (c : Console τ) : Command τ → Console τ
  | .read now raw => (c.read now raw).2
  | .look now => (c.present now).1

def run (c : Console τ) (commands : List (Command τ)) : Console τ :=
  commands.foldl step c

/-- Those seen, as the lines up to a moment tell them. Whoever is missing has said the last line too
long ago. -/
structure Tells (timeout now : τ) (lines : List (String × τ)) (seen : Presence.Seen τ) : Prop where
  distinct : (Presence.names seen).Nodup
  last {name : String} {t : τ} (h : (name, t) ∈ seen) : Json.LastGiven lines name t
  recent {name : String} {t : τ} (h : Json.LastGiven lines name t) (ht : now - timeout ≤ t) :
    (name, t) ∈ seen

theorem timeout_run (c : Console τ) (commands : List (Command τ)) :
    (c.run commands).timeout = c.timeout := by
  induction commands generalizing c with
  | nil => rfl
  | cons command rest ih =>
    rw [run, List.foldl_cons, ← run, ih]
    cases command with
    | read now raw =>
      simp only [step, read]
      split <;> rfl
    | look now => rfl

namespace Tells

variable {timeout now later : τ} {lines : List (String × τ)} {seen : Presence.Seen τ}

theorem nothing : Tells timeout now [] [] where
  distinct := List.nodup_nil
  last h := absurd h List.not_mem_nil
  recent h _ := by
    obtain ⟨before, after, hnone, -⟩ := h
    simp at hnone

theorem see (h : Tells timeout now lines seen) (name : String) :
    Tells timeout now (lines ++ [(name, now)]) (Presence.see seen name now) where
  distinct := by
    rw [Presence.names, Presence.see, Json.map_fst_assign]
    split_ifs with hknown
    · exact h.distinct
    · exact List.nodup_append.mpr ⟨h.distinct, List.nodup_singleton name, by
        intro a ha b hb
        rw [List.mem_singleton.mp hb]
        exact ne_of_mem_of_not_mem ha hknown⟩
  last hmem := by
    rw [Json.lastGiven_snoc]
    rcases Json.mem_assign_iff.mp hmem with ⟨rfl, rfl⟩ | ⟨hother, hmem⟩
    · exact .inl ⟨rfl, rfl⟩
    · exact .inr ⟨hother.symm, h.last hmem⟩
  recent hlast ht := by
    refine Json.mem_assign_iff.mpr ?_
    rcases Json.lastGiven_snoc.mp hlast with ⟨rfl, rfl⟩ | ⟨hother, hlast⟩
    · exact .inl ⟨rfl, rfl⟩
    · exact .inr ⟨hother.symm, h.recent hlast ht⟩

theorem mem_forget_iff {p : String × τ} :
    p ∈ Presence.forget timeout now seen ↔ p ∈ seen ∧ now - timeout ≤ p.2 := by
  simp [Presence.forget]

theorem forget (h : Tells timeout now lines seen) :
    Tells timeout now lines (Presence.forget timeout now seen) where
  distinct := h.distinct.sublist (List.filter_sublist.map Prod.fst)
  last hmem := h.last (mem_forget_iff.mp hmem).1
  recent hlast ht := mem_forget_iff.mpr ⟨h.recent hlast ht, ht⟩

variable [IsOrderedAddMonoid τ]

theorem mono (h : Tells timeout now lines seen) (hlater : now ≤ later) :
    Tells timeout later lines seen where
  distinct := h.distinct
  last := h.last
  recent hlast ht := h.recent hlast ((sub_le_sub_right hlater timeout).trans ht)

end Tells

variable [IsOrderedAddMonoid τ]

theorem tells_run (botName : String) (timeout : τ) {commands : List (Command τ)} {now : τ}
    (h : (commands.map Command.time ++ [now]).Pairwise (· ≤ ·)) :
    Tells timeout now (lines commands) ((fresh botName timeout).run commands).seen := by
  induction commands using List.reverseRecOn generalizing now with
  | nil => exact .nothing
  | append_singleton commands command ih =>
    rw [List.map_append, List.pairwise_append] at h
    obtain ⟨hordered, -, hnow⟩ := h
    have hbefore := ih hordered
    have hlater : command.time ≤ now := hnow _ (by simp) now (List.mem_singleton_self now)
    have hafter : Tells timeout command.time (lines (commands ++ [command]))
        (((fresh botName timeout).run commands).step command).seen := by
      rw [lines, List.filterMap_append, ← lines]
      cases command with
      | look time =>
        rw [step, present, timeout_run]
        rw [show [Command.look time].filterMap Command.line? = [] from rfl, List.append_nil]
        exact hbefore.forget
      | read time raw =>
        simp only [step, read, List.filterMap_cons, List.filterMap_nil, Command.line?]
        cases parse? raw with
        | none => simpa using hbefore
        | some e => exact hbefore.see e.sender
    rw [run, List.foldl_append]
    exact hafter.mono hlater

/-- A look shows, each once, the names whose last accepted line is not longer ago than the timeout,
whenever anyone looked before. -/
theorem present_exact (botName : String) (timeout : τ) (commands : List (Command τ)) (now : τ)
    (h : (commands.map Command.time ++ [now]).Pairwise (· ≤ ·)) :
    let names := (((fresh botName timeout).run commands).present now).2
    names.Nodup ∧
    (∀ name, name ∈ names ↔
      ∃ t, Json.LastGiven (lines commands) name t ∧ now - timeout ≤ t) ∧
    ∀ others : List (Command τ), (others.map Command.time ++ [now]).Pairwise (· ≤ ·) →
      lines others = lines commands →
      names.Perm (((fresh botName timeout).run others).present now).2 := by
  have hexact : ∀ course : List (Command τ),
      (course.map Command.time ++ [now]).Pairwise (· ≤ ·) →
      (((fresh botName timeout).run course).present now).2.Nodup ∧
      ∀ name, name ∈ (((fresh botName timeout).run course).present now).2 ↔
        ∃ t, Json.LastGiven (lines course) name t ∧ now - timeout ≤ t := by
    intro course hcourse
    have htold := (tells_run botName timeout hcourse).forget
    rw [present, timeout_run]
    refine ⟨htold.distinct, fun name => ?_⟩
    rw [Presence.names, List.mem_map]
    constructor
    · rintro ⟨⟨_, t⟩, hmem, rfl⟩
      exact ⟨t, htold.last hmem, (Tells.mem_forget_iff.mp hmem).2⟩
    · rintro ⟨t, hlast, ht⟩
      exact ⟨(name, t), htold.recent hlast ht, rfl⟩
  obtain ⟨hdistinct, hmem⟩ := hexact commands h
  refine ⟨hdistinct, hmem, fun others hothers hsame => ?_⟩
  obtain ⟨hdistinct', hmem'⟩ := hexact others hothers
  rw [hsame] at hmem'
  exact (List.perm_ext_iff_of_nodup hdistinct hdistinct').mpr fun name =>
    (hmem name).trans (hmem' name).symm

/-- Ann is forgotten at a look and comes back. Cid says nothing. -/
def evening : List (Command ℚ) :=
  [.read 0 "Ann: hi", .read 40 "Bob: hello: there", .look 70, .read 80 " Ann : back again",
    .look 100, .read 100 "Cid:   "]

def unwatched : List (Command ℚ) :=
  [.read 0 "Ann: hi", .read 40 "Bob: hello: there", .read 80 " Ann : back again"]

/-- A minute after her last line Ann still counts as present, and nobody else does. -/
theorem present_of_evening :
    let names := (((fresh "troll" (60 : ℚ)).run evening).present 140).2
    names = ["Ann"] ∧ (∃ t, Json.LastGiven (lines evening) "Ann" t ∧ 140 - 60 ≤ t) ∧
      (¬ ∃ t, Json.LastGiven (lines evening) "Bob" t ∧ 140 - 60 ≤ t) ∧
      names.Perm (((fresh "troll" (60 : ℚ)).run unwatched).present 140).2 := by
  intro names
  have hnames : names = ["Ann"] := by decide +kernel
  obtain ⟨-, hmem, hunwatched⟩ := present_exact "troll" (60 : ℚ) evening 140 (by decide +kernel)
  have hann : "Ann" ∈ names := by simp [hnames]
  have hbob : "Bob" ∉ names := by simp [hnames]
  exact ⟨hnames, (hmem "Ann").mp hann, mt (hmem "Bob").mpr hbob,
    hunwatched unwatched (by decide) (by decide)⟩

end Console
end Banter
