import Banter.Proofs.Json.Writing
import Banter.Request

/-! A request is read back from the text that goes over the wire. -/
namespace Banter

open Banter.Text (CodePoint)
open Banter.Json (Value Plain Brief keyed)

namespace Json

theorem field?_keyed (fields : List (String × Value)) (name : String) :
    Value.field? (keyed fields) name = fields.lookup name := by
  unfold Value.field?
  induction fields with
  | nil => rfl
  | cons f fields ih =>
    rw [keyed, List.map_cons, lookup_cons, lookup_cons]
    simp only [CodePoint.ofString_injective.eq_iff]
    exact congrArg _ ih

end Json

namespace Validation

variable {α : Type} {fields : List (String × Value)} {name : String} {v : Value}
  {check : Value → Checked α} {a : α}

theorem given?_keyed (others : List String) (hv : fields.lookup name = some v) :
    given? (keyed fields) (name :: others) = some (name, v) := by
  rw [given?, List.findSome?_cons, Json.field?_keyed, hv]
  rfl

theorem required_keyed (others : List String) (hv : fields.lookup name = some v)
    (ha : check v = .ok a) : required (name :: others) check (keyed fields) = .ok a := by
  rw [required, given?_keyed others hv]
  simp only [ha]
  rfl

theorem optional_keyed (others : List String) (default : α) (hv : fields.lookup name = some v)
    (ha : check v = .ok a) : optional (name :: others) default check (keyed fields) = .ok a := by
  rw [optional, given?_keyed others hv]
  simp only [ha]
  rfl

theorem asString_text (s : String) : asString (.text s) = .ok s :=
  congrArg _ (Json.toString_ofString s)

theorem asInt_int (n : Int) : asInt (.int n) = .ok n := rfl

theorem asBool_bool (b : Bool) : asBool (.bool b) = .ok b := rfl

theorem checkItems_map {write : α → Value} (h : ∀ a, check (write a) = .ok a) (i : Nat)
    (as : List α) : checkItems check i (as.map write) = .ok as := by
  induction as generalizing i with
  | nil => rfl
  | cons a as ih =>
    rw [List.map_cons, checkItems, h, ih]
    rfl

theorem asList_map {write : α → Value} (h : ∀ a, check (write a) = .ok a) (as : List α) :
    asList check (.arr (as.map write)) = .ok as :=
  checkItems_map h 0 as

end Validation

open Validation (required optional asString asInt asBool asList required_keyed optional_keyed
  asString_text asInt_int asBool_bool asList_map)

namespace RecentPlayer

def fields (p : RecentPlayer) : List (String × Value) :=
  [("name", .text p.name), ("interactions", .int p.interactions)]

theorem ofJson_toJson (p : RecentPlayer) : ofJson p.toJson = .ok p := by
  change ofFields (keyed p.fields) = .ok p
  have hname : required ["name"] asString (keyed p.fields) = .ok p.name :=
    required_keyed _ rfl (asString_text p.name)
  have hcount : optional ["interactions"] 0 asInt (keyed p.fields) = .ok p.interactions :=
    optional_keyed _ _ rfl (asInt_int p.interactions)
  rw [ofFields, hname, hcount]
  rfl

theorem plain_toJson {p : RecentPlayer} (h : Brief p.interactions) : Plain p.toJson := by
  have hk : ["name", "interactions"].Nodup := by decide
  refine .record hk fun f hf => ?_
  simp only [List.mem_cons, List.not_mem_nil, or_false] at hf
  obtain rfl | rfl := hf
  · exact .text p.name
  · exact .int h

end RecentPlayer

namespace RequestContext

def fields (c : RequestContext) : List (String × Value) :=
  [("recentPlayers", .arr (c.recentPlayers.map RecentPlayer.toJson)),
    ("totalPlayers", .int c.totalPlayers), ("currentSpeaker", .text c.currentSpeaker),
    ("isBusyChat", .bool c.isBusyChat)]

theorem ofJson_toJson (c : RequestContext) : ofJson c.toJson = .ok c := by
  change ofFields (keyed c.fields) = .ok c
  have hplayers : optional ["recentPlayers", "recent_players"] [] (asList RecentPlayer.ofJson)
      (keyed c.fields) = .ok c.recentPlayers :=
    optional_keyed _ _ rfl (asList_map RecentPlayer.ofJson_toJson c.recentPlayers)
  have htotal : optional ["totalPlayers", "total_players"] 0 asInt (keyed c.fields) =
      .ok c.totalPlayers :=
    optional_keyed _ _ rfl (asInt_int c.totalPlayers)
  have hspeaker : optional ["currentSpeaker", "current_speaker"] "" asString (keyed c.fields) =
      .ok c.currentSpeaker :=
    optional_keyed _ _ rfl (asString_text c.currentSpeaker)
  have hbusy : optional ["isBusyChat", "is_busy_chat"] false asBool (keyed c.fields) =
      .ok c.isBusyChat :=
    optional_keyed _ _ rfl (asBool_bool c.isBusyChat)
  rw [ofFields, hplayers, htotal, hspeaker, hbusy]
  rfl

/-- All numbers that are told of the players are brief. -/
structure Brief (c : RequestContext) : Prop where
  total : Json.Brief c.totalPlayers
  each : ∀ p ∈ c.recentPlayers, Json.Brief p.interactions

theorem Brief.plain_toJson {c : RequestContext} (h : c.Brief) : Plain c.toJson := by
  have hk : ["recentPlayers", "totalPlayers", "currentSpeaker", "isBusyChat"].Nodup := by decide
  refine .record hk fun f hf => ?_
  simp only [List.mem_cons, List.not_mem_nil, or_false] at hf
  obtain rfl | rfl | rfl | rfl := hf
  · refine .array fun v hv => ?_
    obtain ⟨p, hp, rfl⟩ := List.mem_map.mp hv
    exact RecentPlayer.plain_toJson (h.each p hp)
  · exact .int h.total
  · exact .text c.currentSpeaker
  · exact .bool c.isBusyChat

end RequestContext

namespace Request

def fields (r : Request) : List (String × Value) :=
  [("userId", .text r.userId), ("userName", .text r.userName), ("text", .text r.text),
    ("context", r.context.toJson)]

theorem ofJson_toJson (r : Request) : ofJson r.toJson = .ok r := by
  change ofFields (keyed r.fields) = .ok r
  have hid : required ["userId", "user_id"] asString (keyed r.fields) = .ok r.userId :=
    required_keyed _ rfl (asString_text r.userId)
  have hname : required ["userName", "user_name"] asString (keyed r.fields) = .ok r.userName :=
    required_keyed _ rfl (asString_text r.userName)
  have htext : required ["text"] asString (keyed r.fields) = .ok r.text :=
    required_keyed _ rfl (asString_text r.text)
  have hcontext : optional ["context"] .empty RequestContext.ofJson (keyed r.fields) =
      .ok r.context :=
    optional_keyed _ _ rfl (RequestContext.ofJson_toJson r.context)
  rw [ofFields, hid, hname, htext, hcontext]
  rfl

theorem plain_toJson {r : Request} (h : r.context.Brief) : Plain r.toJson := by
  have hk : ["userId", "userName", "text", "context"].Nodup := by decide
  refine .record hk fun f hf => ?_
  simp only [List.mem_cons, List.not_mem_nil, or_false] at hf
  obtain rfl | rfl | rfl | rfl := hf
  · exact .text r.userId
  · exact .text r.userName
  · exact .text r.text
  · exact h.plain_toJson

/-- The text of a request is read as the data it was written from. -/
theorem read_body {r : Request} (h : r.context.Brief) : Json.read r.body.toList = .ok r.toJson := by
  rw [body, Json.writeText, String.toList_ofList]
  exact (plain_toJson h).read_write

end Request
end Banter
