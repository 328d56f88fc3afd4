import Banter.Proofs.Activity.Chance
import Banter.Proofs.History
import Mathlib.Algebra.Order.Ring.Rat
import Mathlib.Data.Nat.Cast.Order.Ring

/-!
The window is exact: though it is pruned from the front and capped message by message, it shows what
one look over the whole history since the last reset would show.
-/
namespace Banter.Activity

variable {τ : Type}

def Command.timesAfter (times : List τ) : Command τ → List τ
  | .activity now => times ++ [now]
  | .reset => []
  | _ => times

/-- The times of the messages since the last reset. -/
def messageTimes (commands : List (Command τ)) : List τ :=
  commands.foldl Command.timesAfter []

theorem messageTimes_snoc (commands : List (Command τ)) (last : Command τ) :
    messageTimes (commands ++ [last]) = last.timesAfter (messageTimes commands) := by
  rw [messageTimes, List.foldl_append]
  rfl

namespace Window

section Ordered

variable [LinearOrder τ] {times : List τ}

theorem filter_of_head_le {t since : τ} {rest : List τ} (h : (t :: rest).Pairwise (· ≤ ·))
    (hsince : since ≤ t) : (t :: rest).filter (since ≤ ·) = t :: rest := by
  apply List.filter_eq_self.mpr
  intro u hu
  rcases List.mem_cons.mp hu with rfl | hu
  · exact decide_eq_true hsince
  · exact decide_eq_true (hsince.trans (List.rel_of_pairwise_cons h hu))

theorem dropWhile_eq_filter (h : times.Pairwise (· ≤ ·)) (since : τ) :
    times.dropWhile (fun t => decide (t < since)) = times.filter (since ≤ ·) := by
  induction times with
  | nil => rfl
  | cons t rest ih =>
    by_cases hearly : t < since
    · have hnot : ¬ since ≤ t := not_le.mpr hearly
      rw [List.dropWhile_cons, if_pos (decide_eq_true hearly), List.filter_cons,
        if_neg (by simpa using hnot)]
      exact ih h.of_cons
    · rw [List.dropWhile_cons, if_neg (by simpa using hearly),
        filter_of_head_le h (not_lt.mp hearly)]

/-- A history may be capped before it is pruned or after. -/
theorem filter_rtake (h : times.Pairwise (· ≤ ·)) (since : τ) (n : Nat) :
    (times.rtake n).filter (since ≤ ·) = (times.filter (since ≤ ·)).rtake n := by
  induction times with
  | nil => simp
  | cons t rest ih =>
    by_cases hroom : n ≤ rest.length
    · rw [rtake_cons_of_le t hroom, ih h.of_cons, List.filter_cons]
      split_ifs with hlate
      · -- Nothing is pruned, so the first time goes to the cap.
        have hall := filter_of_head_le h (of_decide_eq_true hlate)
        rw [List.filter_cons, if_pos hlate, List.cons.injEq] at hall
        rw [hall.2, rtake_cons_of_le t hroom]
      · rfl
    · have hlength : (t :: rest).length ≤ n := Nat.lt_of_not_le hroom
      have hfewer : ((t :: rest).filter (since ≤ ·)).length ≤ n :=
        (List.length_filter_le _ _).trans hlength
      rw [rtake_of_length_le hlength, rtake_of_length_le hfewer]

end Ordered

variable [CommRing τ] [LinearOrder τ]

/-- What a look over the whole history shows: of the times within the span before the newest one,
the newest ten. -/
def recent (times : List τ) : List τ :=
  match times.getLast? with
  | none => []
  | some now => (times.filter (now - span ≤ ·)).rtake capacity

theorem recent_snoc (past : List τ) (now : τ) :
    recent (past ++ [now]) = ((past ++ [now]).filter (now - span ≤ ·)).rtake capacity := by
  rw [recent, List.getLast?_append]
  rfl

theorem recent_sublist (times : List τ) : (recent times).Sublist times := by
  unfold recent
  split
  · exact List.nil_sublist times
  · exact (List.drop_sublist _ _).trans List.filter_sublist

variable [IsStrictOrderedRing τ]

theorem sub_span_le (now : τ) : now - span ≤ now :=
  sub_le_self now (Nat.ofNat_nonneg 30)

theorem filter_recent {times : List τ} {now : τ} (h : (times ++ [now]).Pairwise (· ≤ ·)) :
    (recent times).filter (now - span ≤ ·) =
      (times.filter (now - span ≤ ·)).rtake capacity := by
  obtain ⟨hordered, -, hnow⟩ := List.pairwise_append.mp h
  rcases List.eq_nil_or_concat times with rfl | ⟨past, last, rfl⟩
  · rfl
  · rw [List.concat_eq_append] at hordered hnow ⊢
    have hlast : last - span ≤ now - (span : τ) :=
      sub_le_sub_right (hnow last (by simp) now List.mem_cons_self) _
    have hkept : ((past ++ [last]).filter (last - span ≤ ·)).Pairwise (· ≤ ·) :=
      hordered.sublist List.filter_sublist
    rw [recent_snoc, filter_rtake hkept, List.filter_filter]
    congr 1
    apply List.filter_congr
    intro t _
    rw [Bool.eq_iff_iff]
    simp only [Bool.and_eq_true, decide_eq_true_eq]
    exact ⟨fun hboth => hboth.1, fun hlate => ⟨hlate, hlast.trans hlate⟩⟩

theorem record_recent {times : List τ} {now : τ} (h : (times ++ [now]).Pairwise (· ≤ ·)) :
    record now (recent times) = recent (times ++ [now]) := by
  have hordered : (recent times).Pairwise (· ≤ ·) :=
    (List.pairwise_append.mp h).1.sublist (recent_sublist times)
  have hnew : [now].filter (now - span ≤ ·) = [now] := by
    simpa using sub_span_le now
  calc record now (recent times)
      = ((recent times).dropWhile (fun t => decide (t < now - span)) ++ [now]).rtake capacity := rfl
    _ = ((times.filter (now - span ≤ ·)).rtake capacity ++ [now]).rtake capacity := by
        rw [dropWhile_eq_filter hordered, filter_recent h]
    _ = (times.filter (now - span ≤ ·) ++ [now]).rtake capacity := rtake_snoc_rtake _ _ _
    _ = recent (times ++ [now]) := by rw [recent_snoc, List.filter_append, hnew]

end Window

namespace Tracker

variable [CommRing τ] [LinearOrder τ]

theorem run_snoc (t : Tracker τ) (commands : List (Command τ)) (last : Command τ) :
    t.run (commands ++ [last]) = (t.run commands).step last := by
  rw [run, List.foldl_append]
  rfl

variable [IsStrictOrderedRing τ]

/-- The window tells the history, as long as time does not run backwards. What was before the last
reset is no matter. -/
theorem window_run (botName : String) (commands : List (Command τ))
    (h : (messageTimes commands).Pairwise (· ≤ ·)) :
    ((fresh botName : Tracker τ).run commands).window = Window.recent (messageTimes commands) := by
  induction commands using List.reverseRecOn with
  | nil => rfl
  | append_singleton commands last ih =>
    rw [messageTimes_snoc] at h ⊢
    rw [run_snoc]
    cases last with
    | activity now =>
      have hbefore := ih (List.pairwise_append.mp h).1
      change Window.record now _ = _
      rw [hbefore]
      exact Window.record_recent h
    | reset => rfl
    | interaction name =>
      rw [step, window_recordInteraction]
      exact ih h
    | roster names => exact ih h
    | clear => exact ih h

/-- After a message the window holds, in order, the newest ten of all times since the last reset
that lie within thirty seconds before it. -/
theorem window_exact (botName : String) (commands : List (Command τ))
    (h : (messageTimes commands).Pairwise (· ≤ ·)) :
    let t := (fresh botName : Tracker τ).run commands
    (messageTimes commands = [] → t.window = []) ∧
    ∀ past now, messageTimes commands = past ++ [now] →
      let recent := (past ++ [now]).filter (now - 30 ≤ ·)
      t.window = recent.rtake 10 ∧ t.snapshot.recentMessages = min 10 recent.length ∧
        t.window.getLast? = some now := by
  intro t
  have hwindow : t.window = Window.recent (messageTimes commands) := window_run botName commands h
  refine ⟨fun hnone => ?_, fun past now htimes => ?_⟩
  · rw [hwindow, hnone]
    rfl
  · intro recent
    rw [htimes, Window.recent_snoc] at hwindow
    have hshown : t.window = recent.rtake 10 := hwindow
    have hlength : t.window.length = min 10 recent.length := by
      rw [hshown, List.rtake, List.length_drop]
      omega
    have hnewest : recent = past.filter (now - 30 ≤ ·) ++ [now] := by
      simp [recent, List.filter_append]
    refine ⟨hshown, ?_, ?_⟩
    · change (t.window.length : Int) = _
      omega
    · rw [hshown, hnewest, show 10 = 9 + 1 from rfl, List.rtake_concat_succ]
      simp

def chatTimes : List ℚ := [0, 1 / 2, 30, 30, 61 / 2, 31, 32, 33, 34, 35, 36, 37]

/-- A late message that is forgotten, then that chat, with other things in between. -/
def chatter : List (Command ℚ) :=
  [.activity 1000, .reset, .roster [some "Ann"]] ++ chatTimes.map .activity ++
    [.interaction (some "Ann"), .clear, .activity 60, .roster []]

/-- Eleven messages are recent, two of them by just thirty seconds, and the oldest one is capped. -/
theorem window_of_chatter :
    let t := (fresh "troll" : Tracker ℚ).run chatter
    t.window = [30, 61 / 2, 31, 32, 33, 34, 35, 36, 37, 60] ∧ t.snapshot.recentMessages = 10 := by
  intro t
  have htimes : messageTimes chatter = chatTimes ++ [60] := rfl
  have hordered : (messageTimes chatter).Pairwise (· ≤ ·) := by decide +kernel
  obtain ⟨hwindow, hcount, -⟩ := (window_exact "troll" chatter hordered).2 chatTimes 60 htimes
  exact ⟨hwindow.trans (by decide +kernel), hcount.trans (by decide +kernel)⟩

end Tracker
end Banter.Activity
