import Banter.Proofs.Text.Trim
import Banter.Settings.Settings

/-! Settings are accepted just if every one of them passes its check. -/
namespace Banter

namespace Validation

variable {α β : Type}

theorem alongside_eq_ok_iff {x : Checked α} {f : Checked (α → β)} {b : β} :
    alongside x f = .ok b ↔ ∃ g, f = .ok g ∧ ∃ a, x = .ok a ∧ g a = b := by
  cases f with
  | ok g => cases x <;> simp [alongside]
  | error issues => cases x <;> simp [alongside]

theorem Checked.map_eq_ok_iff {x : Checked α} {f : α → β} {b : β} :
    x.map f = .ok b ↔ ∃ a, x = .ok a ∧ f a = b := by
  cases x <;> simp [Except.map]

theorem Checked.within_eq_ok_iff {p : Place} {x : Checked α} {a : α} :
    Checked.within p x = .ok a ↔ x = .ok a := by
  cases x <;> simp [Checked.within]

end Validation

/-- The value of a setting, which may be its default. -/
def Sources.value (s : Sources) (n : Settings.Name) (default : Json.Value) : Json.Value :=
  ((s.find? n).map Prod.snd).getD default

namespace Settings

theorem setting_eq_ok_iff {α : Type} {src : Sources} {n : Name} {default : Json.Value}
    {check : Json.Value → Validation.Checked α} {a : α} :
    setting src n default check = .ok a ↔ check (src.value n default) = .ok a := by
  unfold setting Sources.value
  cases src.find? n with
  | none => exact Validation.Checked.within_eq_ok_iff
  | some found => exact Validation.Checked.within_eq_ok_iff

/-- The settings are what the checks made of the values. -/
structure Vouched (src : Sources) (s : Settings) : Prop where
  enabled : Validation.asBool (src.value .enabled (.bool false)) = .ok s.enabled
  endpoint : asEndpoint (src.value .endpoint (.text defaultEndpoint)) = .ok s.endpoint
  showOverlay : Validation.asBool (src.value .showOverlay (.bool true)) = .ok s.showOverlay
  botName : asBotName (src.value .botName (.text defaultBotName)) = .ok s.botName
  heartbeat : asHeartbeat (src.value .heartbeat (.float 0.6)) = .ok s.heartbeat
  logLevel : Validation.asString (src.value .logLevel (.text "INFO")) = .ok s.logLevel

theorem ofSources_eq_ok_iff {src : Sources} {s : Settings} :
    ofSources src = .ok s ↔ Vouched src s := by
  unfold ofSources
  simp only [Validation.alongside_eq_ok_iff, Validation.Checked.map_eq_ok_iff, setting_eq_ok_iff]
  constructor
  · rintro ⟨-, ⟨-, ⟨-, ⟨-, ⟨-, ⟨enabled, henabled, rfl⟩, endpoint, hendpoint, rfl⟩, overlay,
      hoverlay, rfl⟩, name, hname, rfl⟩, heartbeat, hheartbeat, rfl⟩, level, hlevel, rfl⟩
    exact ⟨henabled, hendpoint, hoverlay, hname, hheartbeat, hlevel⟩
  · intro h
    exact ⟨_, ⟨_, ⟨_, ⟨_, ⟨_, ⟨_, h.enabled, rfl⟩, _, h.endpoint, rfl⟩, _, h.showOverlay, rfl⟩, _,
      h.botName, rfl⟩, _, h.heartbeat, rfl⟩, _, h.logLevel, rfl⟩

theorem exists_ofSources_eq_ok {α : Type} {src : Sources} {part : Settings → α} {a : α}
    (h : (ofSources src).toOption.map part = some a) : ∃ s, ofSources src = .ok s ∧ part s = a := by
  cases hall : ofSources src with
  | error issues => rw [hall] at h; cases h
  | ok s => rw [hall] at h; exact ⟨s, rfl, Option.some.inj h⟩

theorem asBotName_eq_ok {v : Json.Value} {name : String} (h : asBotName v = .ok name) :
    name ≠ "" ∧ Text.trim name.toList = name.toList := by
  have hdefault : defaultBotName ≠ "" ∧
      Text.trim defaultBotName.toList = defaultBotName.toList := by decide
  have hgiven : ∀ s : List Char,
      .ok (if (Text.trim s).isEmpty then defaultBotName else String.ofList (Text.trim s)) =
        (.ok name : Validation.Checked String) →
      name ≠ "" ∧ Text.trim name.toList = name.toList := by
    intro s hs
    cases hblank : (Text.trim s).isEmpty with
    | true =>
      rw [hblank, if_pos rfl] at hs
      obtain rfl := Except.ok.inj hs
      exact hdefault
    | false =>
      rw [hblank, if_neg Bool.false_ne_true] at hs
      obtain rfl := Except.ok.inj hs
      rw [String.toList_ofList, Text.trim_trim]
      refine ⟨?_, rfl⟩
      intro hempty
      rw [String.ofList_eq_empty_iff] at hempty
      simp [hempty] at hblank
  cases v with
  | null =>
    obtain rfl := Except.ok.inj h
    exact hdefault
  | _ => exact hgiven _ h

end Settings
end Banter
