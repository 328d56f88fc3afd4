import Banter.Activity.Command
import Banter.Proofs.History

/-! The two books of a ledger agree, and tell the recent history. -/
namespace Banter.Activity

structure Visit where
  name : String
  /-- Was the partner new to the ledger? -/
  entry : Bool
  deriving DecidableEq

/-- The newcomers, in order. -/
def entriesIn (visits : List Visit) : List String :=
  (visits.filter Visit.entry).map Visit.name

/-- The number of visits of a partner from the latest entry on. -/
def sinceEntry (visits : List Visit) (name : String) : Nat :=
  1 + (visits.rtakeWhile (· ≠ ⟨name, true⟩)).countP (·.name = name)

theorem entriesIn_snoc (visits : List Visit) (name : String) (entry : Bool) :
    entriesIn (visits ++ [⟨name, entry⟩]) = entriesIn visits ++ if entry then [name] else [] := by
  cases entry <;> simp [entriesIn]

theorem sinceEntry_of_entry (visits : List Visit) (name : String) :
    sinceEntry (visits ++ [⟨name, true⟩]) name = 1 := by
  simp [sinceEntry]

theorem sinceEntry_of_return (visits : List Visit) (name : String) :
    sinceEntry (visits ++ [⟨name, false⟩]) name = sinceEntry visits name + 1 := by
  simp [sinceEntry, List.countP_append]
  omega

theorem sinceEntry_of_ne (visits : List Visit) {name other : String} (entry : Bool)
    (h : other ≠ name) :
    sinceEntry (visits ++ [⟨other, entry⟩]) name = sinceEntry visits name := by
  simp [sinceEntry, h]

namespace Ledger

/-- The ledger as the visits have it. -/
structure Mirrors (visits : List Visit) (l : Ledger) : Prop where
  names : l.names = (entriesIn visits).rtake capacity
  distinct : l.names.Nodup
  answers : l.answers = l.names.map fun name => (name, sinceEntry visits name)

theorem mirrors_empty : Mirrors [] .empty :=
  ⟨rfl, List.nodup_nil, rfl⟩

theorem names_evict (answers : List (String × Nat)) (names : List String) :
    (evict answers names).names = names.rtake capacity := by
  induction names generalizing answers with
  | nil => rfl
  | cons oldest rest ih =>
    unfold evict
    split_ifs with hfull
    · rw [ih, rtake_cons_of_le _ (Nat.le_of_lt_succ hfull)]
    · rw [rtake_of_length_le (Nat.le_of_not_lt hfull)]

def Knows (l : Ledger) (name : String) : Prop :=
  name ∈ l.names ∨ name ∈ l.answers.map Prod.fst

theorem mem_assign {answers : List (String × Nat)} {name partner : String} {count : Nat}
    (h : name ∈ (Json.assign answers partner count).map Prod.fst) :
    name ∈ answers.map Prod.fst ∨ name = partner := by
  unfold Json.assign at h
  split_ifs at h
  · have hkeys : ∀ entry : String × Nat,
        (if entry.1 = partner then (partner, count) else entry).1 = entry.1 := by
      intro entry
      split_ifs with hentry
      · exact hentry.symm
      · rfl
    rw [List.map_map] at h
    obtain ⟨entry, hentry, rfl⟩ := List.mem_map.mp h
    exact .inl (List.mem_map.mpr ⟨entry, hentry, (hkeys entry).symm⟩)
  · simpa using h

theorem Knows.of_evict {answers : List (String × Nat)} {names : List String} {name : String}
    (h : (evict answers names).Knows name) : Knows ⟨answers, names⟩ name := by
  induction names generalizing answers with
  | nil => exact h
  | cons oldest rest ih =>
    unfold evict at h
    split_ifs at h
    · refine (ih h).imp (List.mem_cons_of_mem oldest) ?_
      exact fun hkept => (List.filter_sublist.map Prod.fst).mem hkept
    · exact h

theorem Knows.of_record {l : Ledger} {name partner : String} (h : (l.record partner).Knows name) :
    l.Knows name ∨ name = partner := by
  unfold record at h
  dsimp only at h
  split_ifs at h
  · obtain hname | hname := h
    · exact .inl (.inl hname)
    · exact (mem_assign hname).imp_left .inr
  · obtain hname | hname := h.of_evict
    · exact (List.mem_append.mp hname).imp .inl List.mem_singleton.mp
    · exact (mem_assign hname).imp_left .inr

/-- The partners pushed out are those before the ones that stay. -/
theorem pushedOut_append_names (l : Ledger) {name : String} (hname : name ∉ l.names) :
    l.pushedOut name ++ (l.record name).names = l.names ++ [name] := by
  have hshort : l.names.length + 1 - capacity ≤ l.names.length := by
    rw [capacity]
    omega
  rw [pushedOut, if_neg hname, record, if_neg hname, names_evict, List.rtake,
    List.length_append, List.length_singleton, ← List.take_append_of_le_length hshort,
    List.take_append_drop]

/-- Where both books have the same partners, striking out leaves the newest in both. -/
theorem evict_eq {answers : List (String × Nat)} {names : List String}
    (hk : answers.map Prod.fst = names) (hn : names.Nodup) :
    evict answers names = ⟨answers.rtake capacity, names.rtake capacity⟩ := by
  induction names generalizing answers with
  | nil =>
    obtain rfl := List.map_eq_nil_iff.mp hk
    rfl
  | cons oldest rest ih =>
    obtain ⟨first, more, rfl, rfl, hmore⟩ := List.map_eq_cons_iff.mp hk
    obtain ⟨hfirst, hrest⟩ := List.nodup_cons.mp hn
    have hlength : more.length = rest.length := by rw [← hmore, List.length_map]
    unfold evict
    split_ifs with hfull
    · -- Names are distinct, so only the oldest entry is struck out.
      have hkept : (first :: more).filter (·.1 ≠ first.1) = more := by
        rw [List.filter_cons_of_neg (by simp), List.filter_eq_self]
        intro e he
        have hne : e.1 ≠ first.1 := fun h => hfirst (hmore ▸ h ▸ List.mem_map_of_mem he)
        simpa using hne
      have hle : capacity ≤ rest.length := Nat.le_of_lt_succ hfull
      rw [hkept, ih hmore hrest, rtake_cons_of_le _ hle, rtake_cons_of_le _ (hlength ▸ hle)]
    · have hle : (first.1 :: rest).length ≤ capacity := Nat.le_of_not_lt hfull
      rw [rtake_of_length_le hle,
        rtake_of_length_le (by rwa [List.length_cons, hlength, ← List.length_cons])]

theorem assign_graph_of_mem {names : List String} {name : String} (f : String → Nat) (count : Nat)
    (h : name ∈ names) :
    Json.assign (names.map fun n => (n, f n)) name count =
      names.map fun n => (n, if n = name then count else f n) := by
  have hthere : ((names.map fun n => (n, f n)).any (·.1 = name)) = true := by simpa using h
  rw [Json.assign, if_pos hthere, List.map_map]
  apply List.map_congr_left
  intro n _
  by_cases hn : n = name <;> simp [hn]

theorem assign_graph_of_not_mem {names : List String} {name : String} (f : String → Nat)
    (count : Nat) (h : name ∉ names) :
    Json.assign (names.map fun n => (n, f n)) name count =
      (names.map fun n => (n, f n)) ++ [(name, count)] := by
  have hmissing : ¬ ((names.map fun n => (n, f n)).any (·.1 = name)) = true := by simpa using h
  rw [Json.assign, if_neg hmissing]

theorem Mirrors.record_known {visits : List Visit} {l : Ledger} (h : Mirrors visits l)
    {name : String} (hname : name ∈ l.names) :
    Mirrors (visits ++ [⟨name, false⟩]) (l.record name) := by
  have hcount : l.answers.lookup name = some (sinceEntry visits name) := by
    rw [h.answers, List.lookup_graph _ hname]
  rw [record, if_pos hname, hcount, Option.getD_some]
  refine ⟨by simp [entriesIn_snoc, h.names], h.distinct, ?_⟩
  simp only [h.answers]
  rw [assign_graph_of_mem _ _ hname]
  apply List.map_congr_left
  intro n _
  by_cases hn : n = name
  · rw [hn, if_pos rfl, sinceEntry_of_return]
  · rw [if_neg hn, sinceEntry_of_ne _ _ (Ne.symm hn)]

theorem Mirrors.record_new {visits : List Visit} {l : Ledger} (h : Mirrors visits l)
    {name : String} (hname : name ∉ l.names) :
    Mirrors (visits ++ [⟨name, true⟩]) (l.record name) := by
  have hother : ∀ n ∈ l.names, name ≠ n := by
    rintro n hn rfl
    exact hname hn
  have hmissing : l.answers.lookup name = none := by
    rw [h.answers, List.lookup_eq_none_iff]
    intro p hp
    obtain ⟨n, hn, rfl⟩ := List.mem_map.mp hp
    simpa using hother n hn
  -- The newcomer is none of the others, whose counts stay.
  have hbooks : Json.assign l.answers name 1 =
      (l.names ++ [name]).map fun n => (n, sinceEntry (visits ++ [⟨name, true⟩]) n) := by
    rw [h.answers, assign_graph_of_not_mem _ _ hname, List.map_append, List.map_singleton,
      sinceEntry_of_entry]
    congr 1
    apply List.map_congr_left
    intro n hn
    rw [sinceEntry_of_ne _ _ (hother n hn)]
  have hdistinct : (l.names ++ [name]).Nodup := by
    refine List.nodup_append.mpr ⟨h.distinct, by simp, ?_⟩
    intro n hn newcomer hnew
    rw [List.mem_singleton.mp hnew]
    exact (hother n hn).symm
  have hrecord : l.record name =
      ⟨(Json.assign l.answers name 1).rtake capacity, (l.names ++ [name]).rtake capacity⟩ := by
    rw [record, if_neg hname, hmissing]
    exact evict_eq (by simp [hbooks, Function.comp_def]) hdistinct
  rw [hrecord]
  refine ⟨?_, hdistinct.sublist (List.drop_sublist _ _), ?_⟩
  · simp only [entriesIn_snoc, if_true]
    rw [h.names, rtake_snoc_rtake]
  · simp only [hbooks]
    rw [map_rtake]

theorem Mirrors.record {visits : List Visit} {l : Ledger} (h : Mirrors visits l) (name : String) :
    Mirrors (visits ++ [⟨name, name ∉ l.names⟩]) (l.record name) := by
  by_cases hname : name ∈ l.names
  · simpa [hname] using h.record_known hname
  · simpa [hname] using h.record_new hname

theorem Mirrors.exists_visit {visits : List Visit} {l : Ledger} (h : Mirrors visits l)
    {name : String} (hname : name ∈ l.names) : ∃ v ∈ visits, v.name = name := by
  rw [h.names] at hname
  obtain ⟨v, hv, rfl⟩ := List.mem_map.mp (List.mem_of_mem_drop hname)
  exact ⟨v, List.mem_of_mem_filter hv, rfl⟩

theorem Mirrors.newest_mem {visits : List Visit} {name : String} {l : Ledger}
    (h : Mirrors (visits ++ [⟨name, true⟩]) l) : name ∈ l.names := by
  rw [h.names, entriesIn_snoc, if_pos rfl, show capacity = 9 + 1 from rfl,
    List.rtake_concat_succ]
  simp

theorem Mirrors.mem_record {visits : List Visit} {l : Ledger} (h : Mirrors visits l)
    (name : String) : name ∈ (l.record name).names := by
  by_cases hname : name ∈ l.names
  · rwa [Ledger.record, if_pos hname]
  · exact (h.record_new hname).newest_mem

theorem Mirrors.length_names_le {visits : List Visit} {l : Ledger} (h : Mirrors visits l) :
    l.names.length ≤ capacity := by
  rw [h.names, List.rtake, List.length_drop]
  omega

/-- A partner in the ledger came in some time, and has been counted from the latest time on. -/
theorem Mirrors.exists_entry {visits : List Visit} {l : Ledger} (h : Mirrors visits l)
    {name : String} (hname : name ∈ l.names) :
    ∃ earlier later, visits = earlier ++ ⟨name, true⟩ :: later ∧ ⟨name, true⟩ ∉ later ∧
      sinceEntry visits name = 1 + later.countP (·.name = name) := by
  have hentry : ⟨name, true⟩ ∈ visits.reverse := by
    rw [h.names] at hname
    obtain ⟨⟨_, entry⟩, hv, rfl⟩ := List.mem_map.mp (List.mem_of_mem_drop hname)
    obtain ⟨hmem, rfl⟩ : _ ∧ entry = true := List.mem_filter.mp hv
    exact List.mem_reverse.mpr hmem
  -- The latest entry is the first one from behind.
  obtain ⟨later, earlier, hsplit, hlater⟩ := List.eq_append_cons_of_mem hentry
  refine ⟨earlier.reverse, later.reverse, ?_, by simpa using hlater, ?_⟩
  · simpa using congrArg List.reverse hsplit
  · have hkept : ∀ v ∈ later, decide (v ≠ ⟨name, true⟩) = true := by
      intro v hv
      exact decide_eq_true fun hsame => hlater (hsame ▸ hv)
    rw [sinceEntry, List.rtakeWhile, hsplit, List.takeWhile_append_of_pos hkept,
      List.takeWhile_cons_of_neg (by simp), List.append_nil]

end Ledger

def Command.clears {τ : Type} : Command τ → Bool
  | .clear | .reset => true
  | _ => false

namespace Tracker

variable {τ : Type}

def visit? (t : Tracker τ) : Command τ → Option Visit
  | .interaction (some name) =>
    if t.counts (some name) then some ⟨name, name ∉ t.ledger.names⟩ else none
  | _ => none

theorem counts_some (t : Tracker τ) (name : String) :
    t.counts (some name) = true ↔ name ≠ "" ∧ isSelfName (some name) t.botName = false := by
  simp [counts, Text.given]

/-- A tracker has all visits in its ledger, and none of the visitors is the bot or nameless. -/
structure Recalls (botName : String) (visits : List Visit) (t : Tracker τ) : Prop where
  own : t.botName = botName
  ledger : t.ledger.Mirrors visits
  counted : ∀ v ∈ visits, v.name ≠ "" ∧ isSelfName (some v.name) botName = false

theorem Recalls.congr {botName : String} {visits : List Visit} {t u : Tracker τ}
    (h : Recalls botName visits t) (hn : u.botName = t.botName) (hl : u.ledger = t.ledger) :
    Recalls botName visits u :=
  ⟨hn.trans h.own, hl ▸ h.ledger, h.counted⟩

theorem Recalls.interactions {botName : String} {visits : List Visit} {t : Tracker τ}
    (h : Recalls botName visits t) :
    t.snapshot.interactions =
      t.ledger.names.map fun name => (name, (sinceEntry visits name : Int)) := by
  change List.map _ t.ledger.answers = _
  rw [h.ledger.answers, List.map_map]
  rfl

theorem recalls_nothing {botName : String} {t : Tracker τ} (hn : t.botName = botName)
    (hl : t.ledger = .empty) : Recalls botName [] t :=
  ⟨hn, hl ▸ Ledger.mirrors_empty, by simp⟩

theorem Recalls.interaction {botName : String} {past : List Visit} {t : Tracker τ}
    (h : Recalls botName past t) (name : String) :
    Recalls botName (past ++ (t.visit? (.interaction (some name))).toList)
      (t.recordInteraction (some name)) := by
  unfold visit? recordInteraction
  dsimp only
  split_ifs with hcounts
  · refine ⟨h.own, h.ledger.record name, ?_⟩
    intro v hv
    rcases List.mem_append.mp hv with hv | hv
    · exact h.counted v hv
    · obtain rfl := List.mem_singleton.mp hv
      rw [← h.own]
      exact (t.counts_some name).mp hcounts
  · simpa using h

variable [LT τ] [DecidableLT τ] [Sub τ] [OfNat τ 30]

/-- The visits since the ledger was last cleared. -/
def visits (t : Tracker τ) (past : List Visit) : List (Command τ) → List Visit
  | [] => past
  | command :: rest =>
    (t.step command).visits
      (if command.clears then [] else past ++ (t.visit? command).toList) rest

theorem Recalls.step {botName : String} {past : List Visit} {t : Tracker τ}
    (h : Recalls botName past t) (command : Command τ) :
    Recalls botName (if command.clears then [] else past ++ (t.visit? command).toList)
      (t.step command) := by
  cases command with
  | interaction name =>
    cases name with
    | none => simpa [Command.clears, visit?, Tracker.step, recordInteraction] using h
    | some name => exact h.interaction name
  | activity now =>
    simpa [Command.clears, visit?] using h.congr (u := t.step (.activity now)) rfl rfl
  | roster names =>
    simpa [Command.clears, visit?] using h.congr (u := t.step (.roster names)) rfl rfl
  | clear => exact recalls_nothing h.own rfl
  | reset => exact recalls_nothing h.own rfl

theorem Recalls.run {botName : String} {past : List Visit} {t : Tracker τ}
    (h : Recalls botName past t) (commands : List (Command τ)) :
    Recalls botName (t.visits past commands) (t.run commands) := by
  induction commands generalizing past t with
  | nil => exact h
  | cons command rest ih => exact ih (h.step command)

/-- The ledger tells the history since it was last cleared: the last ten newcomers, in both books,
each with the number of visits from the latest entry on. -/
theorem ledger_tells_recent (botName : String) (commands : List (Command τ)) :
    let snapshot := ((fresh botName : Tracker τ).run commands).snapshot
    let visits := (fresh botName : Tracker τ).visits [] commands
    snapshot.recentInteractors = (entriesIn visits).rtake 10 ∧
      snapshot.recentInteractors.Nodup ∧
      snapshot.interactions.map Prod.fst = snapshot.recentInteractors ∧
      (∀ name ∈ snapshot.recentInteractors,
        snapshot.interactions.lookup name = some (sinceEntry visits name : Int) ∧
        1 ≤ sinceEntry visits name ∧ name ≠ "" ∧ isSelfName (some name) botName = false) ∧
      ∀ before name, visits = before ++ [⟨name, true⟩] →
        snapshot.interactions.lookup name = some 1 := by
  intro snapshot visits
  have hrecalls : Recalls botName visits ((fresh botName : Tracker τ).run commands) :=
    (recalls_nothing rfl rfl : Recalls botName [] (fresh botName)).run commands
  have hmirrors := hrecalls.ledger
  have hbooks : snapshot.interactions =
      snapshot.recentInteractors.map fun name => (name, (sinceEntry visits name : Int)) :=
    hrecalls.interactions
  have hlookup : ∀ name ∈ snapshot.recentInteractors,
      snapshot.interactions.lookup name = some (sinceEntry visits name : Int) := by
    intro name hname
    rw [hbooks, List.lookup_graph _ hname]
  refine ⟨hmirrors.names, hmirrors.distinct, ?_, ?_, ?_⟩
  · rw [hbooks, List.map_map]
    exact List.map_id _
  · intro name hname
    obtain ⟨v, hv, rfl⟩ := hmirrors.exists_visit hname
    exact ⟨hlookup v.name hname, Nat.le_add_right 1 _, hrecalls.counted v hv⟩
  · intro before name hvisits
    have hname : name ∈ snapshot.recentInteractors := by
      rw [hvisits] at hmirrors
      exact hmirrors.newest_mem
    rw [hlookup name hname, hvisits, sinceEntry_of_entry]
    rfl

/-- Eleven partners come, some of them twice, and the bot itself, and at last the first comes back. -/
def parade : List (Command Float) :=
  [some "a", some "a", none, some "b", some "Bridge Troll", some "c", some "d", some "e", some "f",
    some "g", some "h", some "i", some "j", some "j", some "k", some "b", some "a"].map .interaction

def paraded : List Visit :=
  [⟨"a", true⟩, ⟨"a", false⟩, ⟨"b", true⟩, ⟨"c", true⟩, ⟨"d", true⟩, ⟨"e", true⟩, ⟨"f", true⟩,
    ⟨"g", true⟩, ⟨"h", true⟩, ⟨"i", true⟩, ⟨"j", true⟩, ⟨"j", false⟩, ⟨"k", true⟩, ⟨"b", false⟩]

/-- The first was pushed out and counts anew. -/
theorem ledger_after_parade :
    let snapshot := ((fresh "troll" : Tracker Float).run parade).snapshot
    snapshot.recentInteractors = ["c", "d", "e", "f", "g", "h", "i", "j", "k", "a"] ∧
      snapshot.interactions.lookup "j" = some 2 ∧ snapshot.interactions.lookup "a" = some 1 := by
  intro snapshot
  have hvisits : (fresh "troll").visits [] parade = paraded ++ [⟨"a", true⟩] := by decide +kernel
  obtain ⟨hnames, -, -, hcounts, hnewest⟩ := ledger_tells_recent "troll" parade
  rw [hvisits] at hnames hcounts
  have hrecent : snapshot.recentInteractors = ["c", "d", "e", "f", "g", "h", "i", "j", "k", "a"] :=
    hnames
  have htwice : sinceEntry (paraded ++ [⟨"a", true⟩]) "j" = 2 := by decide +kernel
  have hj := (hcounts "j" (by rw [hnames]; decide +kernel)).1
  rw [htwice] at hj
  exact ⟨hrecent, hj, hnewest paraded "a" hvisits⟩

end Tracker
end Banter.Activity
