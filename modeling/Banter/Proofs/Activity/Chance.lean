import Banter.Activity.Command
import Banter.Proofs.Number.Order

/-!
The chance of an answer follows the roster alone: the window has room for fewer messages than would
make the chat busy.
-/
namespace Banter.Activity

variable {τ : Type}

theorem Window.length_record_le [LT τ] [DecidableLT τ] [Sub τ] [OfNat τ 30] (now : τ)
    (window : List τ) : (record now window).length ≤ capacity := by
  unfold record
  rw [List.length_drop]
  omega

theorem thin_busyMessages {messages : Nat} (h : messages ≤ Window.capacity) (x : Float) :
    thin busyMessages messages x = x := by
  have hroom : Window.capacity ≤ busyMessages := by decide
  have hcalm : ¬ busyMessages < messages := Nat.not_lt.mpr (Nat.le_trans h hroom)
  rw [thin, if_neg hcalm]

theorem isNaN_clampChance (x : Float) : (clampChance x).isNaN = false := by
  unfold clampChance
  dsimp only
  split_ifs with _ hleast hleast
  · exact (Binary64.isNaN_of_lt hleast).2
  · decide +kernel
  · exact (Binary64.isNaN_of_lt hleast).2
  · decide +kernel

namespace Tracker

theorem window_recordInteraction (t : Tracker τ) (name : Option String) :
    (t.recordInteraction name).window = t.window := by
  unfold recordInteraction
  split
  · split_ifs <;> rfl
  · rfl

theorem chance_of_window {t : Tracker τ} (h : t.window.length ≤ Window.capacity) :
    t.chance = clampChance (thin quietLimit t.roster.length baseChance) := by
  rw [Tracker.chance, Activity.chance, thin_busyMessages h]

variable [LT τ] [DecidableLT τ] [Sub τ] [OfNat τ 30]

theorem length_window_step {t : Tracker τ} (h : t.window.length ≤ Window.capacity)
    (command : Command τ) : (t.step command).window.length ≤ Window.capacity := by
  cases command with
  | interaction name =>
    rw [step, t.window_recordInteraction]
    exact h
  | activity now => exact Window.length_record_le now t.window
  | roster names => exact h
  | clear => exact h
  | reset => exact Nat.zero_le _

theorem length_window_run {t : Tracker τ} (h : t.window.length ≤ Window.capacity)
    (commands : List (Command τ)) : (t.run commands).window.length ≤ Window.capacity := by
  induction commands generalizing t with
  | nil => exact h
  | cons command rest ih => exact ih (length_window_step h command)

/-- The window never holds enough messages for a busy chat, so a channel where everybody talks has
just the chance of a silent one with the same roster. -/
theorem chance_follows_roster (botName : String) (commands : List (Command τ)) :
    let t := (fresh botName : Tracker τ).run commands
    t.window.length ≤ 10 ∧ ¬ busyMessages < t.window.length ∧
      t.chance = clampChance
        (if 5 < t.roster.length then 0.6 * (5 / Float.ofNat t.roster.length) else 0.6) ∧
      t.chance = ({ t with window := [] } : Tracker τ).chance := by
  intro t
  have hempty : (fresh botName : Tracker τ).window.length ≤ Window.capacity := Nat.zero_le _
  have hwindow : t.window.length ≤ 10 := length_window_run hempty commands
  have hbusy : busyMessages = 15 := rfl
  have hsilent : ({ t with window := [] } : Tracker τ).chance =
      clampChance (thin quietLimit t.roster.length baseChance) := chance_of_window (Nat.zero_le _)
  have hchance := chance_of_window hwindow
  exact ⟨hwindow, by omega, hchance, hchance.trans hsilent.symm⟩

/-- Sixteen messages at once leave the chance at what it is without any. -/
example :
    let t := (fresh "troll" : Tracker Float).run (List.replicate 16 (.activity 1000))
    t.chance.toBits = (0.6 : Float).toBits ∧ (0.6 * (15 / 16) : Float) < t.chance := by
  decide +kernel

end Tracker
end Banter.Activity
