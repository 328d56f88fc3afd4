import Banter.Proofs.Console.Parsing
import Banter.Proofs.Session.Namesake
import Banter.Proofs.Settings.Acceptance
import Banter.Proofs.Text.Trim

/-!
Lines that the responder printed itself and reads again. They are passed over as its own, unless
there is a colon inside of its name: then what stands before it is taken for a name of its own.
-/
namespace Banter

theorem Draws.next_ne (d : Draws) : d.next.2 ≠ d := by
  have hused : d.next.2.used = d.used + 1 := by
    unfold next
    split <;> rfl
  intro h
  rw [h] at hused
  omega

namespace Session

variable {σ : Type}

/-- A line that is read is not answered and takes no draw. -/
def PassesOver (s : Session σ) (now : Float) (raw : String) : Prop :=
  ∀ e, Console.parse? raw = some e →
    (s.hear now e).1.ticket = none ∧ (s.hear now e).2.draws = s.draws

/-- Not answered whoever says it: the text repeats the last line said, or the last answer, given at
`last`, is not long enough ago, or a request is out. -/
def Barred (s : Session σ) (last : Option Float) (now : Float) (text : List Char) : Prop :=
  (s.queue.lastSent ≠ "" ∧ Text.lower (Text.trim text) = Text.lower s.queue.lastSent.toList) ∨
    (∃ time ∈ last, ¬ (10.0 : Float) ≤ now - time) ∨ s.pending ≠ none

theorem Equipped.unheeded_iff {given : Settings} {s : Session σ} (h : Equipped given s)
    (now : Float) (e : ChatEvent) :
    ((s.hear now e).1.ticket = none ∧ (s.hear now e).2.draws = s.draws) ↔
      ¬ Admissible s s.gate.lastResponse now e := by
  rw [h.admissible_iff]
  constructor
  · rintro ⟨-, hdraws⟩ hopen
    rw [draws_hear, if_pos hopen] at hdraws
    exact s.draws.next_ne hdraws
  · intro hclosed
    exact ⟨ticket_hear_eq_none hclosed, draws_hear.trans (if_neg hclosed)⟩

theorem not_lower_infix_of_cut {botName name rest : List Char} (h : botName = name ++ ':' :: rest) :
    ¬ Text.lower botName <:+: Text.lower (Text.trim name) := by
  intro hinfix
  have hwhole : (Text.lower botName).length =
      (Text.lower name).length + (Text.lower (':' :: rest)).length := by
    rw [h, Text.length_lower_append]
  have hcolon := Text.length_lower_append [':'] rest
  have hone : (Text.lower [':']).length = 1 := by decide
  have htrimmed := Text.length_lower_le (Text.trim_sublist name)
  have hlength := hinfix.length_le
  rw [List.singleton_append, hone] at hcolon
  omega

theorem admissible_saying_iff {s : Session σ} (hstarted : s.started = true) {last : Option Float}
    {now : Float} {name rest text : List Char}
    (hname : s.settings.botName.toList = name ++ ':' :: rest) (hseen : Text.Visible name)
    (hsaid : Text.Visible text) :
    Admissible s last now (Console.saying name text) ↔ ¬ Barred s last now text := by
  constructor
  · rintro h (⟨hlast, hecho⟩ | ⟨time, htime, hearly⟩ | hout)
    · refine h.original hlast ?_
      rw [Console.saying, String.toList_ofList]
      exact hecho
    · exact hearly (h.rested time htime)
    · exact hout h.free
  · intro h
    simp only [Barred, not_or, not_and, not_exists, not_not] at h
    obtain ⟨horiginal, hrested, hfree⟩ := h
    refine ⟨hstarted, rfl, ?_, ?_, ?_, ?_, hrested, hfree⟩
    · have hsome := (Text.visible_trim.mpr hseen).ne_nil
      simpa [Console.saying] using hsome
    · intro _
      rw [Console.saying, String.toList_ofList]
      exact not_lower_infix_of_cut hname
    · rw [Console.saying, String.toList_ofList]
      exact Text.visible_trim.mpr hsaid
    · rw [Console.saying, String.toList_ofList]
      exact horiginal

theorem passesOver_iff {s : Session σ} {now : Float} {raw : String} {name text : List Char}
    (hraw : raw.toList = name ++ ':' :: text) (hname : ':' ∉ name) (hseen : Text.Visible name)
    (hsaid : Text.Visible text) :
    PassesOver s now raw ↔ (s.hear now (Console.saying name text)).1.ticket = none ∧
      (s.hear now (Console.saying name text)).2.draws = s.draws := by
  have hparsed : Console.parse? raw = some (Console.saying name text) :=
    Console.parse?_eq_some_iff.mpr ⟨name, text, hraw, hname, hseen, hsaid, rfl⟩
  constructor
  · exact fun h => h _ hparsed
  · rintro h e he
    rw [hparsed] at he
    obtain rfl := Option.some.inj he
    exact h

theorem passesOver_of_nameless (s : Session σ) (now : Float) {raw : String} {text : List Char}
    (hraw : raw.toList = ':' :: text) : PassesOver s now raw := by
  intro e he
  have hnone : ':' ∉ ([] : List Char) := List.not_mem_nil
  rw [Console.parse?_of_marked hraw hnone] at he
  cases he

section Spoken

variable {settings : Settings} {s : Session σ} {line ending : String}

theorem toList_spoken (settings : Settings) (line ending : String) :
    (Console.spoken settings.botName line ++ ending).toList =
      settings.botName.toList ++ ':' :: (' ' :: line.toList ++ ending.toList) := by
  simp [Console.spoken]

/-- Without a colon inside, the bot's name is read as it is, and recognised. -/
theorem Equipped.passesOver_of_no_colon (h : Equipped settings s) (hnamed : settings.botName ≠ "")
    (htrimmed : Text.trim settings.botName.toList = settings.botName.toList)
    (hcolon : ':' ∉ settings.botName.toList) (now : Float) :
    PassesOver s now (Console.spoken settings.botName line ++ ending) := by
  intro e he
  obtain ⟨name, text, hraw, hfirst, -, -, rfl⟩ := Console.parse?_eq_some_iff.mp he
  obtain ⟨rfl, -⟩ :=
    Console.eq_of_marked hfirst hcolon (hraw.symm.trans (toList_spoken settings line ending))
  rw [h.unheeded_iff]
  intro hadmissible
  refine hadmissible.stranger (h.settings ▸ hnamed) ?_
  rw [h.settings, Console.saying, String.toList_ofList, htrimmed]

/-- What stands before a colon in the bot's name is read as the name of the sender. -/
theorem Equipped.passesOver_iff_barred (h : Equipped settings s) (hstarted : s.started = true)
    (htrimmed : Text.trim settings.botName.toList = settings.botName.toList)
    {name rest : List Char} (hname : settings.botName.toList = name ++ ':' :: rest)
    (hfirst : ':' ∉ name) (hsome : name ≠ [])
    (hending : ∀ c ∈ ending.toList, Text.isBlank c = true) (now : Float) :
    PassesOver s now (Console.spoken settings.botName line ++ ending) ↔
      Barred s s.gate.lastResponse now (rest ++ ": ".toList ++ line.toList) := by
  have hraw : (Console.spoken settings.botName line ++ ending).toList =
      name ++ ':' :: (rest ++ ": ".toList ++ line.toList ++ ending.toList) := by
    rw [toList_spoken, hname]
    simp
  have hseen : Text.Visible name := by
    obtain ⟨c, more, rfl⟩ := List.exists_cons_of_ne_nil hsome
    refine ⟨c, List.mem_cons_self, ?_⟩
    rw [hname] at htrimmed
    exact Text.not_blank_of_trim htrimmed
  have hcolons : Text.Visible (rest ++ ": ".toList ++ line.toList) := ⟨':', by simp, by decide⟩
  have hsaid := Text.visible_append.mpr (.inl hcolons : _ ∨ Text.Visible ending.toList)
  have hsame : Console.saying name (rest ++ ": ".toList ++ line.toList ++ ending.toList) =
      Console.saying name (rest ++ ": ".toList ++ line.toList) := by
    rw [Console.saying, Text.trim_append_blank _ hending, Console.saying]
  rw [passesOver_iff hraw hfirst hseen hsaid, hsame, h.unheeded_iff,
    admissible_saying_iff hstarted (h.settings ▸ hname) hseen hcolons, not_not]

end Spoken

variable [Host σ]

/-- A line that the bot printed is passed over just if the bot's name has no colon behind its first
character, or the rest of the line is barred from an answer. -/
theorem passes_over_own_line_iff {src : Sources} {settings : Settings}
    (hsettings : Settings.ofSources src = .ok settings) (host : σ) (draws : Draws) (clock : Float)
    {commands : List (Command σ)} {s : Session σ}
    (hs : Met ⟨clock, .fresh settings host draws⟩ commands s) (hstarted : s.started = true)
    (now : Float) (line : String) {ending : String}
    (hending : ∀ c ∈ ending.toList, Text.isBlank c = true) :
    let last := Scene.lastAnswer ⟨clock, .fresh settings host draws⟩ none commands
    PassesOver s now (Console.spoken settings.botName line ++ ending) ↔
      ∀ name rest, settings.botName.toList = name ++ ':' :: rest → ':' ∉ name → name ≠ [] →
        Barred s last now (rest ++ ": ".toList ++ line.toList) := by
  intro last
  have hequipped : Equipped settings s := hs.equipped (.fresh settings host draws false)
  have hlast : s.gate.lastResponse = last := hs.lastResponse
  obtain ⟨hnamed, htrimmed⟩ :=
    Settings.asBotName_eq_ok (Settings.ofSources_eq_ok_iff.mp hsettings).botName
  by_cases hcolon : ':' ∈ settings.botName.toList
  · obtain ⟨name, rest, hname, hfirst⟩ := List.eq_append_cons_of_mem hcolon
    have honly : ∀ other more, settings.botName.toList = other ++ ':' :: more → ':' ∉ other →
        name = other ∧ rest = more := by
      intro other more hother hnone
      exact Console.eq_of_marked hfirst hnone (hname.symm.trans hother)
    by_cases hsome : name = []
    · subst hsome
      have hraw : (Console.spoken settings.botName line ++ ending).toList =
          ':' :: (rest ++ ": ".toList ++ line.toList ++ ending.toList) := by
        rw [toList_spoken, hname]
        simp
      refine iff_of_true (passesOver_of_nameless s now hraw) ?_
      intro other more hother hnone hsome
      exact absurd (honly other more hother hnone).1.symm hsome
    · rw [hequipped.passesOver_iff_barred hstarted htrimmed hname hfirst hsome hending, hlast]
      constructor
      · intro hbarred other more hother hnone _
        obtain ⟨-, rfl⟩ := honly other more hother hnone
        exact hbarred
      · intro hall
        exact hall name rest hname hfirst hsome
  · refine iff_of_true (hequipped.passesOver_of_no_colon hnamed htrimmed hcolon now) ?_
    intro name rest hname
    exact absurd (by simp [hname]) hcolon

def grumbling : Sources :=
  ⟨[("bot_name", .text "Old:Grumble"), ("api_endpoint", .text "http://[::1]:3000")], [], ""⟩

/-- Its first line, read again, is taken for a line of someone named Old, and costs a draw. -/
theorem own_line_of_grumbling :
    ∃ settings, Settings.ofSources grumbling = .ok settings ∧
      settings.botName.toList = "Old".toList ++ ':' :: "Grumble".toList ∧
      "Who goes there?" ∈ (Reply.prepareLines "Who goes there?"
        (Activity.Tracker.fresh "Old:Grumble" : Activity.Tracker Float).snapshot (.ofScript [])).1 ∧
      ¬ PassesOver (run ⟨1000, .fresh settings (Rehearsal.fresh [] []) (.ofScript [])⟩
        [.start]).2.session 1010 (Console.spoken settings.botName "Who goes there?" ++ "\n") := by
  have hread : ((Settings.ofSources grumbling).toOption.map Settings.botName) =
      some "Old:Grumble" := by decide
  obtain ⟨settings, haccepted, hname⟩ := Settings.exists_ofSources_eq_ok hread
  have hcut : settings.botName.toList = "Old".toList ++ ':' :: "Grumble".toList := by rw [hname]; rfl
  have hmet : Met ⟨1000, .fresh settings (Rehearsal.fresh [] []) (.ofScript [])⟩ [.start] _ :=
    .after [.start]
  refine ⟨settings, haccepted, hcut, by decide +kernel, fun hpasses => ?_⟩
  have hending : ∀ c ∈ "\n".toList, Text.isBlank c = true := by
    intro c hc
    rw [List.mem_singleton.mp hc]
    rfl
  have hall := (passes_over_own_line_iff haccepted (Rehearsal.fresh [] []) (.ofScript []) 1000 hmet
    rfl 1010 "Who goes there?" hending).mp hpasses
  obtain ⟨hlast, -⟩ | ⟨time, htime, -⟩ | hout :=
    hall _ _ hcut (by decide) (by decide)
  · exact hlast rfl
  · cases htime
  · exact hout rfl

end Session
end Banter
