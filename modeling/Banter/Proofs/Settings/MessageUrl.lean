import Banter.Proofs.Settings.Acceptance
import Banter.Proofs.Url.Reading
import Mathlib.Data.List.DropRight

/-!
Where messages go. The path of messages comes behind the text of the endpoint, and so behind its
path only if that is where the text ends.
-/
namespace Banter

namespace Url

/-- A text without the slashes at its end. -/
def withoutSlashes (s : List Char) : List Char :=
  s.rdropWhile (· == '/')

theorem withoutSlashes_concat_slash (s : List Char) :
    withoutSlashes (s ++ ['/']) = withoutSlashes s :=
  List.rdropWhile_concat_pos _ s '/' rfl

theorem withoutSlashes_concat (s : List Char) {c : Char} (hc : c ≠ '/') :
    withoutSlashes (s ++ [c]) = s ++ [c] :=
  List.rdropWhile_concat_neg _ s c (by simpa using hc)

theorem withoutSlashes_append_cons (s : List Char) {c : Char} (hc : c ≠ '/') (t : List Char) :
    withoutSlashes (s ++ c :: t) = s ++ c :: withoutSlashes t := by
  induction t using List.reverseRecOn with
  | nil => exact withoutSlashes_concat s hc
  | append_singleton t d ih =>
    rw [← List.cons_append, ← List.append_assoc]
    by_cases hd : d = '/'
    · rw [hd, withoutSlashes_concat_slash, withoutSlashes_concat_slash, ih]
    · rw [withoutSlashes_concat _ hd, withoutSlashes_concat _ hd, List.append_assoc,
        List.cons_append]

theorem withoutSlashes_segments {segments : List (List Char)}
    (h : ∀ s ∈ segments, ∀ c ∈ s, c ≠ '/') :
    withoutSlashes (segments.flatMap ('/' :: ·)) =
      (segments.rdropWhile List.isEmpty).flatMap ('/' :: ·) := by
  induction segments using List.reverseRecOn with
  | nil => rfl
  | append_singleton front last ih =>
    have hfront := ih fun s hs => h s (List.mem_append_left _ hs)
    rw [List.flatMap_append, List.flatMap_singleton]
    rcases List.eq_nil_or_concat' last with rfl | ⟨body, c, rfl⟩
    · rw [withoutSlashes_concat_slash, hfront, List.rdropWhile_concat_pos _ _ _ rfl]
    · have hc : c ≠ '/' := h _ (List.mem_append_right _ List.mem_cons_self) c (by simp)
      rw [List.rdropWhile_concat_neg _ front _ (by simp), ← List.cons_append, ← List.append_assoc,
        withoutSlashes_concat _ hc, List.flatMap_append, List.flatMap_singleton, List.append_assoc,
        List.cons_append]

/-- The two are reached in one way: they agree on all that stands before the path. -/
structure SameServer (u v : Url) : Prop where
  scheme : u.scheme = v.scheme
  username : u.username = v.username
  password : u.password = v.password
  host : u.host = v.host
  port : u.port = v.port

/-- The two differ at most in the slashes at the end of their paths. -/
structure AlikeButSlashes (u v : Url) : Prop where
  rest : { u with segments := v.segments } = v
  path : withoutSlashes u.writePath = withoutSlashes v.writePath

/-- A URL with the path of messages behind its text, less the slashes at its end. -/
def extended (u : Url) : Url :=
  match u.fragment, u.query with
  | some f, _ => { u with fragment := some (withoutSlashes f ++ Settings.messagePath.toList) }
  | none, some q => { u with query := some (withoutSlashes q ++ Settings.messagePath.toList) }
  | none, none =>
    { u with segments := u.segments.rdropWhile List.isEmpty ++ ["troll".toList, "message".toList] }

theorem sameServer_extended (u : Url) : SameServer u.extended u := by
  unfold extended
  split <;> exact ⟨rfl, rfl, rfl, rfl, rfl⟩

section

variable {u : Url}

theorem extended_of_fragment {f : List Char} (hf : u.fragment = some f) :
    u.extended =
      { u with fragment := some (withoutSlashes f ++ Settings.messagePath.toList) } := by
  rw [extended, hf]

theorem extended_of_query (hf : u.fragment = none) {q : List Char} (hq : u.query = some q) :
    u.extended = { u with query := some (withoutSlashes q ++ Settings.messagePath.toList) } := by
  rw [extended, hf, hq]

theorem extended_of_path (hf : u.fragment = none) (hq : u.query = none) :
    u.extended = { u with
      segments := u.segments.rdropWhile List.isEmpty ++ ["troll".toList, "message".toList] } := by
  rw [extended, hf, hq]

end

namespace Normal

variable {u : Url}

theorem withoutSlashes_path (h : Normal u) :
    withoutSlashes (writePath u) =
      (u.segments.rdropWhile List.isEmpty).flatMap ('/' :: ·) := by
  refine withoutSlashes_segments fun s hs c hc => ?_
  rintro rfl
  exact absurd ((h.segments s hs).whole '/' hc) (by decide)

theorem withoutSlashes_write_path (h : Normal u) (path : List Char) :
    withoutSlashes (u.scheme ++ "://".toList ++ (writeAuthority u ++ path)) =
      u.scheme ++ "://".toList ++ (writeAuthority u ++ withoutSlashes path) := by
  obtain ⟨first, rest, hsome, -⟩ := h.writeAuthority_cons
  rcases List.eq_nil_or_concat' (writeAuthority u) with hnone | ⟨body, c, hlast⟩
  · rw [hnone] at hsome
    cases hsome
  · have hquiet := (h.quiet_authority (hlast ▸ List.mem_append_right body List.mem_cons_self)).1
    have hc : c ≠ '/' := by
      rintro rfl
      exact absurd hquiet (by decide)
    have hcut := withoutSlashes_append_cons (u.scheme ++ "://".toList ++ body) hc path
    rw [hlast]
    simpa only [List.append_assoc, List.cons_append, List.nil_append] using hcut

theorem writeTarget_extended (h : Normal u) :
    writeTarget u.extended = withoutSlashes (writeTarget u) ++ Settings.messagePath.toList := by
  cases hf : u.fragment with
  | some f =>
    have htarget : writeTarget u = writePath u ++ writePart '?' u.query ++ '#' :: f := by
      rw [writeTarget, hf]
      rfl
    rw [htarget, withoutSlashes_append_cons _ (by decide), extended_of_fragment hf,
      List.append_assoc]
    rfl
  | none =>
    cases hq : u.query with
    | some q =>
      have htarget : ∀ part, writeTarget { u with query := some part } =
          writePath u ++ '?' :: part := by
        intro part
        simp [writeTarget, writePath, writePart, hf]
      have hown : writeTarget u = writePath u ++ '?' :: q := by
        rw [← htarget, ← hq]
      rw [hown, withoutSlashes_append_cons _ (by decide), extended_of_query hf hq, htarget,
        List.append_assoc]
      rfl
    | none =>
      have htarget : ∀ segments, writeTarget { u with segments } = segments.flatMap ('/' :: ·) := by
        intro segments
        simp [writeTarget, writePath, writePart, hf, hq]
      have hown : writeTarget u = writePath u := htarget u.segments
      rw [hown, h.withoutSlashes_path, extended_of_path hf hq, htarget, List.flatMap_append]
      rfl

theorem write_extended (h : Normal u) :
    u.extended.write = withoutSlashes u.write ++ Settings.messagePath.toList := by
  have hserver : u.extended.scheme = u.scheme ∧ writeAuthority u.extended = writeAuthority u := by
    unfold extended
    split <;> exact ⟨rfl, rfl⟩
  rw [write_eq, write_eq u, hserver.1, hserver.2, h.writeTarget_extended,
    h.withoutSlashes_write_path]
  simp only [List.append_assoc]

theorem plain_messagePath : ∀ s ∈ ["troll".toList, "message".toList], Plain s := by
  intro s hs
  rcases List.mem_pair.mp hs with rfl | rfl
  all_goals exact ⟨by decide, List.all_iff_forall_prop.mp (by decide), by decide, by decide⟩

theorem normal_extended (h : Normal u) : Normal u.extended := by
  have hrest : ∀ set : Nat → Bool, Encoded set Settings.messagePath.toList →
      ∀ s, Encoded set s → Encoded set (withoutSlashes s ++ Settings.messagePath.toList) :=
    fun set hset s hs =>
      encoded_append.mpr ⟨hs.sublist (List.rdropWhile_prefix _ s).sublist, hset⟩
  unfold extended
  split
  · next f hf =>
    refine { h with fragment := fun t ht => ?_ }
    obtain rfl := Option.some.inj ht
    exact hrest fragmentSet (by decide) f (h.fragment f hf)
  · next q hf hq =>
    refine { h with query := fun t ht => ?_ }
    obtain rfl := Option.some.inj ht
    exact hrest querySet (by decide) q (h.query q hq)
  · refine { h with path := by simp, segments := fun t ht => ?_ }
    rcases List.mem_append.mp ht with ht | ht
    · exact h.segments t ((List.rdropWhile_prefix _ u.segments).subset ht)
    · exact plain_messagePath t ht

end Normal

namespace AlikeButSlashes

variable {u v : Url}

theorem query (h : AlikeButSlashes u v) : u.query = v.query := by
  rw [← h.rest]

theorem fragment (h : AlikeButSlashes u v) : u.fragment = v.fragment := by
  rw [← h.rest]

theorem eq_of_extended (h : AlikeButSlashes u v) (hextended : u.extended = v.extended) :
    u = v ∨ v.query = none ∧ v.fragment = none := by
  have hsame : u.segments = v.segments → u = v := by
    intro hsegments
    rw [← h.rest, ← hsegments]
  have hpaths := congrArg segments hextended
  cases hf : v.fragment with
  | some f =>
    rw [extended_of_fragment hf, extended_of_fragment (h.fragment.trans hf)] at hpaths
    exact .inl (hsame hpaths)
  | none =>
    cases hq : v.query with
    | some q =>
      rw [extended_of_query hf hq,
        extended_of_query (h.fragment.trans hf) (h.query.trans hq)] at hpaths
      exact .inl (hsame hpaths)
    | none => exact .inr ⟨rfl, rfl⟩

theorem withoutSlashes_write (h : AlikeButSlashes u v) (hu : Normal u) (hv : Normal v)
    (hq : v.query = none) (hf : v.fragment = none) :
    withoutSlashes u.write = withoutSlashes v.write := by
  have htarget : ∀ w : Url, w.query = none → w.fragment = none → writeTarget w = writePath w := by
    intro w hq hf
    simp [writeTarget, writePart, hq, hf]
  have hserver : u.scheme = v.scheme ∧ writeAuthority u = writeAuthority v := by
    rw [← h.rest]
    exact ⟨rfl, rfl⟩
  rw [write_eq, write_eq, hu.withoutSlashes_write_path, hv.withoutSlashes_write_path,
    htarget u (h.query.trans hq) (h.fragment.trans hf), htarget v hq hf, h.path, hserver.1,
    hserver.2]

end AlikeButSlashes
end Url

namespace Settings

variable {src : Sources} {s : Settings}

theorem normal_endpoint (h : ofSources src = .ok s) : s.endpoint.Normal := by
  have haccepted := (ofSources_eq_ok_iff.mp h).endpoint
  unfold asEndpoint at haccepted
  split at haccepted
  · next text =>
    split at haccepted
    · cases haccepted
    · next url hread =>
      obtain rfl := Except.ok.inj haccepted
      obtain ⟨raw, -, hparse⟩ := Validation.Checked.map_eq_ok_iff.mp hread
      exact Url.normal_of_parse hparse
    · cases haccepted
    · cases haccepted
  · cases haccepted

theorem messageUrl_eq (s : Settings) :
    s.messageUrl.toList = Url.withoutSlashes s.endpoint.write ++ messagePath.toList := by
  rw [messageUrl, String.toList_ofList]
  rfl

theorem parse_messageUrl (h : ofSources src = .ok s) :
    Url.parse s.messageUrl.toList = .ok s.endpoint.extended := by
  have hnormal := normal_endpoint h
  rw [messageUrl_eq, ← hnormal.write_extended, hnormal.normal_extended.parse_write]

/-- The path of messages gets where the text ends: behind the fragment, else the query, else the
path, which is kept without the slashes at its end. -/
theorem writePath_extended_iff {u : Url} (h : u.Normal) :
    u.extended.writePath = Url.withoutSlashes u.writePath ++ messagePath.toList ↔
      u.query = none ∧ u.fragment = none := by
  have hkept : Url.withoutSlashes u.writePath ++ messagePath.toList ≠ u.writePath := by
    intro heq
    have hlast : Url.withoutSlashes u.writePath = u.writePath := by
      have hmessage : messagePath.toList = "/troll/messag".toList ++ ['e'] := rfl
      rw [← heq, hmessage, ← List.append_assoc]
      exact Url.withoutSlashes_concat _ (by decide)
    rw [hlast] at heq
    simp [messagePath] at heq
  cases hf : u.fragment with
  | some f =>
    rw [Url.extended_of_fragment hf]
    exact iff_of_false (fun heq => hkept heq.symm) (by simp)
  | none =>
    cases hq : u.query with
    | some q =>
      rw [Url.extended_of_query hf hq]
      exact iff_of_false (fun heq => hkept heq.symm) (by simp)
    | none =>
      rw [Url.extended_of_path hf hq]
      refine iff_of_true ?_ ⟨rfl, rfl⟩
      rw [h.withoutSlashes_path, Url.writePath, List.flatMap_append]
      rfl

/-- Endpoints that differ in nothing but slashes at the end of their paths have one URL for
messages, unless a query or a fragment keeps these slashes. -/
theorem messageUrl_eq_iff {other : Sources} {t : Settings} (hs : ofSources src = .ok s)
    (ht : ofSources other = .ok t) (halike : t.endpoint.AlikeButSlashes s.endpoint) :
    t.messageUrl = s.messageUrl ↔
      t.endpoint = s.endpoint ∨ s.endpoint.query = none ∧ s.endpoint.fragment = none := by
  constructor
  · intro heq
    have hread := parse_messageUrl ht
    rw [heq, parse_messageUrl hs] at hread
    exact halike.eq_of_extended (Except.ok.inj hread).symm
  · rintro (heq | ⟨hq, hf⟩)
    · rw [messageUrl, heq, messageUrl]
    · rw [← String.toList_inj, messageUrl_eq, messageUrl_eq,
        halike.withoutSlashes_write (normal_endpoint ht) (normal_endpoint hs) hq hf]

/-- The URL for messages is on the server of the endpoint. The path of messages comes behind its
path just if there is neither a query nor a fragment. -/
theorem message_path_behind_endpoint_path_iff (h : ofSources src = .ok s) :
    (∃ v, Url.parse s.messageUrl.toList = .ok v ∧ v.SameServer s.endpoint ∧
      (v.writePath = Url.withoutSlashes s.endpoint.writePath ++ messagePath.toList ↔
        s.endpoint.query = none ∧ s.endpoint.fragment = none) ∧
      (∀ f, s.endpoint.fragment = some f →
        v = { s.endpoint with fragment := some (Url.withoutSlashes f ++ messagePath.toList) }) ∧
      ∀ q, s.endpoint.fragment = none → s.endpoint.query = some q →
        v = { s.endpoint with query := some (Url.withoutSlashes q ++ messagePath.toList) }) ∧
    ∀ {other : Sources} {t : Settings}, ofSources other = .ok t →
      t.endpoint.AlikeButSlashes s.endpoint →
      (t.messageUrl = s.messageUrl ↔
        t.endpoint = s.endpoint ∨ s.endpoint.query = none ∧ s.endpoint.fragment = none) := by
  refine ⟨⟨s.endpoint.extended, parse_messageUrl h, Url.sameServer_extended _,
    writePath_extended_iff (normal_endpoint h), ?_, ?_⟩, ?_⟩
  · exact fun f hf => Url.extended_of_fragment hf
  · exact fun q hf hq => Url.extended_of_query hf hq
  · exact fun ht halike => messageUrl_eq_iff h ht halike

def boundFor (endpoint : String) : Sources :=
  ⟨[("api_endpoint", .text endpoint)], [], ""⟩

/-- A query takes the path of messages, and keeps a slash in front of it. -/
theorem message_path_behind_query :
    ∃ s, ofSources (boundFor "http://h/p?x=1") = .ok s ∧
      ∃ v, Url.parse s.messageUrl.toList = .ok v ∧ v.writePath = "/p".toList ∧
        v.query = some "x=1/troll/message".toList := by
  have hread : (ofSources (boundFor "http://h/p?x=1")).toOption.map Settings.endpoint =
      some ⟨"http".toList, [], [], .domain "h".toList, none, ["p".toList], some "x=1".toList,
        none⟩ := by
    decide +kernel
  obtain ⟨s, haccepted, hendpoint⟩ := exists_ofSources_eq_ok hread
  obtain ⟨⟨v, hparse, -, -, -, hquery⟩, -⟩ := message_path_behind_endpoint_path_iff haccepted
  rw [hendpoint] at hquery
  obtain rfl := hquery _ rfl rfl
  exact ⟨s, haccepted, _, hparse, rfl, rfl⟩

end Settings
end Banter
