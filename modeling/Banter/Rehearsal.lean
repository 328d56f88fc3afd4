import Banter.Host

/-! A chat for rehearsals: it fails where it is told to and remembers what it was asked for. -/
namespace Banter

inductive HostCall where
  | send
  | interact
  | roster
  deriving DecidableEq, Repr

structure Rehearsal where
  roster : List (Option String)
  failing : List HostCall
  said : List String
  performed : List (String × List (String × Json.Value))

namespace Rehearsal

def fresh (roster : List (Option String)) (failing : List HostCall) : Rehearsal :=
  ⟨roster, failing, [], []⟩

instance : Host Rehearsal where
  sendLine _ line r :=
    if r.failing.contains .send then (r, true) else ({ r with said := r.said ++ [line] }, false)
  perform _ name args r :=
    if r.failing.contains .interact then (r, true)
    else ({ r with performed := r.performed ++ [(name, args)] }, false)
  participants _ r :=
    if r.failing.contains .roster then (r, none) else (r, some r.roster)

end Rehearsal
end Banter
