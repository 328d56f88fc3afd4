import Banter.Console.Console
import Banter.Proofs.Session.Recorder

/-! What a console prints is a record of what it is asked for. -/
namespace Banter.Console

def texts (c : Console) : List String :=
  c.printed.map Prod.snd

theorem texts_print (c : Console) (now : Float) (line : String) :
    (c.print now line).texts = c.texts ++ [line] := by
  simp [texts, print]

/-- Lines are printed as said, and interactions as performed, by the bot. -/
def printing (botName : String) : Recorder Console String where
  record := texts
  keeps c := c.botName = botName
  line text := [spoken botName text]
  act name args := [performance botName name args]
  sendLine now text c hc := by
    subst hc
    exact ⟨rfl, c.texts_print now _⟩
  perform now name args c hc := by
    subst hc
    exact ⟨rfl, c.texts_print now _⟩
  participants _ _ hc := ⟨hc, rfl⟩

theorem read_frame (c : Console) (now : Float) (raw : String) :
    (c.read now raw).2.botName = c.botName ∧ (c.read now raw).2.texts = c.texts := by
  unfold read
  cases parse? raw <;> exact ⟨rfl, rfl⟩

end Banter.Console
