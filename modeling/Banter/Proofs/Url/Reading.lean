import Banter.Proofs.Url.Host
import Banter.Proofs.Url.Parts
import Banter.Proofs.Url.Percent

/-!
A URL that was read is in normal form, and is read again as it was written: each part ends where it
should, and there is nothing left in it to encode or to resolve.
-/
namespace Banter.Url

/-- A segment of a path that stands for itself. -/
structure Plain (segment : List Char) : Prop where
  encoded : Encoded pathSet segment
  whole : ∀ c ∈ segment, isSlash true c = false
  notDot : isDot segment = false
  notDoubleDot : isDoubleDot segment = false

structure Normal (u : Url) : Prop where
  scheme : u.scheme = "http".toList ∨ u.scheme = "https".toList
  username : Encoded userinfoSet u.username
  password : Encoded userinfoSet u.password
  host : u.host.Settled
  port : ∀ p ∈ u.port, p ≤ 65535 ∧ some p ≠ defaultPort u.scheme
  path : u.segments ≠ []
  segments : ∀ s ∈ u.segments, Plain s
  query : ∀ q ∈ u.query, Encoded querySet q
  fragment : ∀ f ∈ u.fragment, Encoded fragmentSet f

section Reading

/-! ### What is written is read. -/

theorem clean_of_visible {s : List Char} (h : ∀ c ∈ s, 0x20 < c.toNat) : clean s = s := by
  have houter : ∀ t : List Char, (∀ c ∈ t, 0x20 < c.toNat) →
      t.dropWhile (fun c => decide (c.toNat ≤ 0x20)) = t := by
    intro t ht
    cases t with
    | nil => rfl
    | cons c rest =>
      have hc := ht c List.mem_cons_self
      rw [List.dropWhile_cons_of_neg (by simpa using hc)]
  unfold clean
  dsimp only
  rw [houter s h, houter s.reverse (by simpa using h), List.reverse_reverse, List.filter_eq_self]
  intro c hc
  have hvisible := h c hc
  have hlf : c ≠ '\n' := by rintro rfl; simp at hvisible
  have htab : c ≠ '\t' := by rintro rfl; simp at hvisible
  have hcr : c ≠ '\r' := by rintro rfl; simp at hvisible
  simp [hlf, htab, hcr]

section Authority

variable {host user rest : List Char}

theorem splitUser_of_user (hhost : ∀ c ∈ host, endsAuthority true c = false ∧ c ≠ '@')
    (huser : ∀ c ∈ user, endsAuthority true c = false) :
    splitUser true (user ++ '@' :: (host ++ '/' :: rest)) = (some user, host ++ '/' :: rest) := by
  have hopen : ∀ c ∈ user ++ '@' :: host, (!endsAuthority true c) = true := by
    intro c hc
    rcases List.mem_append.mp hc with hc | hc
    · simp [huser c hc]
    · rcases List.mem_cons.mp hc with rfl | hc
      · rfl
      · simp [(hhost c hc).1]
  obtain ⟨hbefore, hafter⟩ := cut_where hopen '/' rfl rest
  have hback : (user ++ '@' :: host).reverse.takeWhile (· ≠ '@') = host.reverse := by
    rw [List.reverse_append, List.reverse_cons, List.append_assoc, List.singleton_append]
    exact (cut_where (fun c hc => by simpa using (hhost c (List.mem_reverse.mp hc)).2) '@' (by simp)
      _).1
  rw [show user ++ '@' :: (host ++ '/' :: rest) = user ++ '@' :: host ++ '/' :: rest by simp]
  unfold splitUser
  dsimp only
  have hsize : (user ++ '@' :: host).length - host.length - 1 = user.length := by
    rw [List.length_append, List.length_cons]
    omega
  rw [hbefore, hafter, hback, List.reverse_reverse, hsize, List.take_left, if_pos (by simp; omega)]

theorem splitUser_of_nobody (hhost : ∀ c ∈ host, endsAuthority true c = false ∧ c ≠ '@') :
    splitUser true (host ++ '/' :: rest) = (none, host ++ '/' :: rest) := by
  have hopen : ∀ c ∈ host, (!endsAuthority true c) = true := by
    intro c hc
    simp [(hhost c hc).1]
  obtain ⟨hbefore, hafter⟩ := cut_where hopen '/' rfl rest
  have hback : host.reverse.takeWhile (· ≠ '@') = host.reverse := by
    refine List.takeWhile_eq_self_iff.mpr fun c hc => ?_
    simpa using (hhost c (List.mem_reverse.mp hc)).2
  unfold splitUser
  dsimp only
  rw [hbefore, hback, List.reverse_reverse, if_neg (Nat.lt_irrefl _)]

theorem isDigit_toDigits {n : Nat} {c : Char} (h : c ∈ Nat.toDigits 10 n) : c.isDigit = true :=
  Nat.isDigit_of_mem_toDigits (by decide) (by decide) h

theorem takePort_of_port {p : Nat} (hp : p ≤ 65535) :
    takePort (':' :: (Nat.toDigits 10 p ++ '/' :: rest)) = .ok (some p, '/' :: rest) := by
  have hall : ∀ c ∈ Nat.toDigits 10 p, c.isDigit = true := fun c hc => isDigit_toDigits hc
  obtain ⟨hdigits, hafter⟩ := cut_where hall '/' rfl rest
  have hvalue : (Nat.toDigits 10 p).foldl (fun n c => 10 * n + (c.toNat - 48)) 0 = p :=
    Nat.ofDigitChars_ten_toDigits
  have hsome : (Nat.toDigits 10 p).isEmpty = false :=
    List.isEmpty_eq_false_iff.mpr Nat.toDigits_ne_nil
  unfold takePort
  simp only [hdigits, hafter, hvalue, if_neg (Nat.not_lt.mpr hp), hsome]
  rfl

theorem takePort_of_none : takePort ('/' :: rest) = .ok (none, '/' :: rest) := rfl

end Authority

theorem splitAt_append {mark : Char} {s : List Char} (h : mark ∉ s) (part : Option (List Char)) :
    splitAt mark (s ++ writePart mark part) = (s, part) := by
  have hall : ∀ c ∈ s, decide (c ≠ mark) = true := by
    intro c hc
    exact decide_eq_true (ne_of_mem_of_not_mem hc h)
  cases part with
  | none =>
    have hnone : s.dropWhile (· ≠ mark) = [] := List.dropWhile_eq_nil_iff.mpr hall
    unfold splitAt writePart
    rw [List.append_nil, hnone]
  | some rest =>
    obtain ⟨hbefore, hafter⟩ := cut_where hall mark (by simp) rest
    unfold splitAt writePart
    rw [hafter, hbefore]

section Path

variable {segments : List (List Char)}

theorem splitOnP_joined (first : List Char)
    (h : ∀ s ∈ first :: segments, ∀ c ∈ s, isSlash true c = false) :
    (first ++ segments.flatMap ('/' :: ·)).splitOnP (isSlash true) = first :: segments := by
  have hfirst : first.splitOnP (isSlash true) = [first] :=
    List.splitOnP_eq_singleton (h first List.mem_cons_self)
  induction segments generalizing first with
  | nil => rw [List.flatMap_nil, List.append_nil, hfirst]
  | cons next rest ih =>
    have hrest : ∀ s ∈ next :: rest, ∀ c ∈ s, isSlash true c = false :=
      fun s hs => h s (List.mem_cons_of_mem first hs)
    have hnext := ih next hrest (List.splitOnP_eq_singleton (hrest next List.mem_cons_self))
    rw [List.flatMap_cons, List.cons_append, List.splitOnP_append_cons _ _ rfl, hfirst, hnext]
    rfl

theorem resolve_of_plain (h : ∀ s ∈ segments, Plain s) (path : List (List Char)) :
    resolve path segments = path ++ segments := by
  induction segments generalizing path with
  | nil => simp [resolve]
  | cons s rest ih =>
    have hs := h s List.mem_cons_self
    have hrest := ih fun t ht => h t (List.mem_cons_of_mem s ht)
    cases rest with
    | nil => simp [resolve, hs.notDot, hs.notDoubleDot]
    | cons next more =>
      rw [resolve.eq_3 _ _ _ (List.cons_ne_nil next more), hs.notDoubleDot, hs.notDot]
      simp [hrest]

theorem parsePath_written (hsome : segments ≠ []) (h : ∀ s ∈ segments, Plain s) :
    parsePath (segments.flatMap ('/' :: ·)) = segments := by
  obtain ⟨first, rest, rfl⟩ := List.exists_cons_of_ne_nil hsome
  have hencoded : (first :: rest).map (percentEncode pathSet) = first :: rest := by
    rw [List.map_congr_left fun s hs => percentEncode_of_encoded (h s hs).encoded]
    exact List.map_id' _
  have hinner : parsePath ((first :: rest).flatMap ('/' :: ·)) =
      resolve [] (((first ++ rest.flatMap ('/' :: ·)).splitOnP (isSlash true)).map
        (percentEncode pathSet)) := rfl
  rw [hinner, splitOnP_joined first fun s hs => (h s hs).whole, hencoded, resolve_of_plain h,
    List.nil_append]

end Path

/-- What a text has to be made of to be a URL, and which URL it is. -/
theorem parseWeb_eq_ok_iff {scheme s : List Char} {u : Url} :
    parseWeb scheme s = .ok u ↔
      let user := (splitUser true s).1
      let place := splitHost true false (splitUser true s).2
      ∃ host port target, place.1 ≠ [] ∧ parseHost place.1 = .ok host ∧
        takePort place.2 = .ok (port, target) ∧
        u = {
          scheme, host
          username := (splitCredentials (user.getD [])).1
          password := (splitCredentials (user.getD [])).2
          port := if port = defaultPort scheme then none else port
          segments := parsePath (splitAt '?' (splitAt '#' target).1).1
          query := (splitAt '?' (splitAt '#' target).1).2.map (percentEncode querySet)
          fragment := (splitAt '#' target).2.map (percentEncode fragmentSet) } := by
  dsimp only
  unfold parseWeb
  dsimp only
  cases hsome : (splitHost true false (splitUser true s).2).1 with
  | nil =>
    constructor
    · intro h
      cases h
    · rintro ⟨_, _, _, hne, -⟩
      exact absurd rfl hne
  | cons c rest =>
    cases hhost : parseHost (c :: rest) with
    | error f =>
      constructor
      · intro h
        cases h
      · rintro ⟨_, _, _, -, hread, -⟩
        cases hread
    | ok host =>
      cases hport : takePort (splitHost true false (splitUser true s).2).2 with
      | error f =>
        constructor
        · intro h
          cases h
        · rintro ⟨_, _, _, -, -, hread, -⟩
          cases hread
      | ok found =>
        obtain ⟨port, target⟩ := found
        constructor
        · intro h
          exact ⟨host, port, target, List.cons_ne_nil c rest, rfl, rfl, (Except.ok.inj h).symm⟩
        · rintro ⟨_, _, _, -, hread, hfound, hu⟩
          cases hread
          cases hfound
          rw [hu]
          rfl

def writeAuthority (u : Url) : List Char :=
  writeCredentials u ++ (u.host.write ++ writePart ':' (u.port.map (Nat.toDigits 10)))

def writeTarget (u : Url) : List Char :=
  writePath u ++ writePart '?' u.query ++ writePart '#' u.fragment

theorem write_eq (u : Url) :
    u.write = u.scheme ++ "://".toList ++ (writeAuthority u ++ writeTarget u) := by
  simp [write, writeAuthority, writeTarget]

theorem quiet_of_isDigit {c : Char} (h : c.isDigit = true) :
    endsAuthority true c = false ∧ c ≠ '@' ∧ 0x20 < c.toNat := by
  have hrange : 48 ≤ c.toNat ∧ c.toNat ≤ 57 := Char.isDigit_iff_toNat.mp h
  refine ⟨?_, ?_, by omega⟩
  · simp [endsAuthority, isSlash]
    refine ⟨⟨⟨?_, ?_⟩, ?_⟩, ?_⟩
    all_goals
      rintro rfl
      simp at hrange
  · rintro rfl
    simp at hrange

theorem quiet_of_userinfo {c : Char} (h : userinfoSet c.toNat = false) :
    endsAuthority true c = false ∧ 0x20 < c.toNat := by
  have hneq : ∀ d, userinfoSet d.toNat = true → c ≠ d := by
    rintro d hd rfl
    rw [hd] at h
    cases h
  simp [userinfoSet, pathSet, fragmentSet, isControl] at h
  refine ⟨?_, by omega⟩
  have h1 := hneq '/' (by decide)
  have h2 := hneq '\x5c' (by decide)
  have h3 := hneq '?' (by decide)
  have h4 := hneq '#' (by decide)
  simp [endsAuthority, isSlash, h1, h2, h3, h4]

namespace Normal

variable {u : Url}

theorem splitCredentials (h : Normal u) {user : List Char}
    (huser : user = u.username ++ if u.password.isEmpty then [] else ':' :: u.password) :
    splitCredentials user = (u.username, u.password) := by
  have hname : ∀ c ∈ u.username, decide (c ≠ ':') = true := by
    intro c hc
    have hkept := h.username c hc
    refine decide_eq_true ?_
    rintro rfl
    exact absurd hkept (by decide)
  have hboth : percentEncode userinfoSet u.username = u.username ∧
      percentEncode userinfoSet u.password = u.password :=
    ⟨percentEncode_of_encoded h.username, percentEncode_of_encoded h.password⟩
  unfold Url.splitCredentials
  cases hsecret : u.password with
  | nil =>
    have hall : user.takeWhile (· ≠ ':') = u.username ∧ user.dropWhile (· ≠ ':') = [] := by
      rw [huser, hsecret, List.isEmpty_nil, if_pos rfl, List.append_nil]
      exact ⟨List.takeWhile_eq_self_iff.mpr hname, List.dropWhile_eq_nil_iff.mpr hname⟩
    rw [hall.1, hall.2, hboth.1]
    rfl
  | cons c rest =>
    have hall : user = u.username ++ ':' :: u.password := by
      rw [huser, hsecret, List.isEmpty_cons, if_neg Bool.false_ne_true]
    obtain ⟨hbefore, hafter⟩ := cut_where hname ':' (by simp) u.password
    rw [hall, hbefore, hafter, List.drop_one, List.tail_cons, hboth.1, hboth.2, hsecret]

theorem writeTarget_cons (h : Normal u) : ∃ rest, writeTarget u = '/' :: rest := by
  obtain ⟨first, rest, hpath⟩ := List.exists_cons_of_ne_nil h.path
  simp [writeTarget, writePath, hpath]

theorem quiet_host (h : Normal u) {c : Char}
    (hc : c ∈ u.host.write ++ writePart ':' (u.port.map (Nat.toDigits 10))) :
    endsAuthority true c = false ∧ c ≠ '@' ∧ 0x20 < c.toNat := by
  rcases List.mem_append.mp hc with hc | hc
  · exact h.host.quiet c hc
  · cases hport : u.port with
    | none => rw [hport] at hc; cases hc
    | some p =>
      rw [hport] at hc
      rcases List.mem_cons.mp hc with rfl | hc
      · decide
      · exact quiet_of_isDigit (isDigit_toDigits hc)

theorem quiet_user (h : Normal u) {c : Char}
    (hc : c ∈ u.username ++ if u.password.isEmpty then [] else ':' :: u.password) :
    endsAuthority true c = false ∧ 0x20 < c.toNat := by
  rcases List.mem_append.mp hc with hc | hc
  · exact quiet_of_userinfo (h.username c hc)
  · split_ifs at hc
    · cases hc
    · rcases List.mem_cons.mp hc with rfl | hc
      · decide
      · exact quiet_of_userinfo (h.password c hc)

theorem quiet_authority (h : Normal u) {c : Char} (hc : c ∈ writeAuthority u) :
    endsAuthority true c = false ∧ 0x20 < c.toNat := by
  rcases List.mem_append.mp hc with hc | hc
  · unfold writeCredentials at hc
    by_cases hnobody : (u.username.isEmpty && u.password.isEmpty) = true
    · rw [if_pos hnobody] at hc
      cases hc
    · rw [if_neg hnobody] at hc
      rcases List.mem_append.mp hc with hc | hc
      · exact h.quiet_user hc
      · obtain rfl := List.mem_singleton.mp hc
        decide
  · exact ⟨(h.quiet_host hc).1, (h.quiet_host hc).2.2⟩

theorem writeAuthority_cons (h : Normal u) :
    ∃ c rest, writeAuthority u = c :: rest ∧ isSlash true c = false := by
  have hsome : writeAuthority u ≠ [] := by
    simp [writeAuthority, h.host.nonempty]
  obtain ⟨c, rest, hfirst⟩ := List.exists_cons_of_ne_nil hsome
  have hquiet := (h.quiet_authority (hfirst ▸ List.mem_cons_self)).1
  unfold endsAuthority at hquiet
  simp only [Bool.or_eq_false_iff] at hquiet
  exact ⟨c, rest, hfirst, hquiet.1.1⟩

theorem mem_writePath (h : Normal u) {c : Char} (hc : c ∈ writePath u) :
    c = '/' ∨ pathSet c.toNat = false := by
  obtain ⟨segment, hsegment, hc⟩ := List.mem_flatMap.mp hc
  rcases List.mem_cons.mp hc with rfl | hc
  · exact .inl rfl
  · exact .inr ((h.segments segment hsegment).encoded c hc)

theorem not_mem_question (h : Normal u) : '?' ∉ writePath u := by
  intro hc
  rcases h.mem_writePath hc with hc | hc
  · cases hc
  · exact absurd hc (by decide)

theorem not_mem_hash (h : Normal u) : '#' ∉ writePath u ++ writePart '?' u.query := by
  intro hc
  rcases List.mem_append.mp hc with hc | hc
  · rcases h.mem_writePath hc with hc | hc
    · cases hc
    · exact absurd hc (by decide)
  · cases hq : u.query with
    | none => rw [hq] at hc; cases hc
    | some q =>
      rw [hq] at hc
      rcases List.mem_cons.mp hc with hc | hc
      · cases hc
      · exact absurd (h.query q hq '#' hc) (by decide)

theorem visible (h : Normal u) {c : Char} (hc : c ∈ u.write) : 0x20 < c.toNat := by
  have hscheme : ∀ c ∈ u.scheme ++ "://".toList, 0x20 < c.toNat := by
    rcases h.scheme with hs | hs
    · rw [hs]
      exact List.all_iff_forall_prop.mp (by decide)
    · rw [hs]
      exact List.all_iff_forall_prop.mp (by decide)
  have hpart : ∀ {mark : Char} {set : Nat → Bool} {part : Option (List Char)}, 0x20 < mark.toNat →
      (∀ n, set n = false → isControl n = false ∧ n ≠ 0x20) → (∀ p ∈ part, Encoded set p) →
      ∀ c ∈ writePart mark part, 0x20 < c.toNat := by
    intro mark set part hmark hset hencoded c hc
    cases part with
    | none => cases hc
    | some p =>
      rcases List.mem_cons.mp hc with rfl | hc
      · exact hmark
      · obtain ⟨hcontrol, hspace⟩ := hset c.toNat (hencoded p rfl c hc)
        simp [isControl] at hcontrol
        omega
  rw [write_eq] at hc
  rcases List.mem_append.mp hc with hc | hc
  · exact hscheme c hc
  · rcases List.mem_append.mp hc with hc | hc
    · exact (h.quiet_authority hc).2
    · rcases List.mem_append.mp hc with hc | hc
      · rcases List.mem_append.mp hc with hc | hc
        · rcases h.mem_writePath hc with rfl | hc
          · decide
          · simp [pathSet, fragmentSet, isControl] at hc
            omega
        · refine hpart (by decide) (fun n hn => ?_) h.query c hc
          simp [querySet] at hn
          exact ⟨hn.1, hn.2.1⟩
      · refine hpart (by decide) (fun n hn => ?_) h.fragment c hc
        simp [fragmentSet] at hn
        exact ⟨hn.1, hn.2.1⟩

theorem splitUser_write (h : Normal u) :
    ∃ user, splitUser true (writeAuthority u ++ writeTarget u) =
        (user, u.host.write ++ (writePart ':' (u.port.map (Nat.toDigits 10)) ++ writeTarget u)) ∧
      Url.splitCredentials (user.getD []) = (u.username, u.password) := by
  obtain ⟨rest, hrest⟩ := h.writeTarget_cons
  have hhost : ∀ c ∈ u.host.write ++ writePart ':' (u.port.map (Nat.toDigits 10)),
      endsAuthority true c = false ∧ c ≠ '@' :=
    fun c hc => ⟨(h.quiet_host hc).1, (h.quiet_host hc).2.1⟩
  unfold writeAuthority writeCredentials
  rw [hrest, ← List.append_assoc u.host.write]
  by_cases hnobody : (u.username.isEmpty && u.password.isEmpty) = true
  · rw [if_pos hnobody, List.nil_append]
    refine ⟨none, splitUser_of_nobody hhost, h.splitCredentials ?_⟩
    obtain ⟨hname, hsecret⟩ := Bool.and_eq_true_iff.mp hnobody
    simp [List.isEmpty_iff.mp hname, hsecret]
  · rw [if_neg hnobody, List.append_assoc, List.append_assoc, List.singleton_append]
    exact ⟨some _, splitUser_of_user hhost fun c hc => (h.quiet_user hc).1, h.splitCredentials rfl⟩

theorem parseWeb_write (h : Normal u) :
    parseWeb u.scheme (writeAuthority u ++ writeTarget u) = .ok u := by
  obtain ⟨user, hsplit, hcredentials⟩ := h.splitUser_write
  obtain ⟨rest, hrest⟩ := h.writeTarget_cons
  have hport : takePort (writePart ':' (u.port.map (Nat.toDigits 10)) ++ writeTarget u) =
      .ok (u.port, writeTarget u) := by
    rw [hrest]
    cases hport : u.port with
    | none => exact takePort_of_none
    | some p => exact takePort_of_port (h.port p hport).1
  have hhost : splitHost true false (u.host.write ++
      (writePart ':' (u.port.map (Nat.toDigits 10)) ++ writeTarget u)) =
      (u.host.write, writePart ':' (u.port.map (Nat.toDigits 10)) ++ writeTarget u) := by
    apply h.host.cut
    intro c hc
    rw [hrest] at hc
    cases hport : u.port with
    | none =>
      rw [hport] at hc
      obtain rfl := Option.some.inj hc
      exact .inl rfl
    | some p =>
      rw [hport] at hc
      obtain rfl := Option.some.inj hc
      exact .inr rfl
  have hfragment : splitAt '#' (writeTarget u) =
      (writePath u ++ writePart '?' u.query, u.fragment) :=
    splitAt_append h.not_mem_hash u.fragment
  have hquery : splitAt '?' (writePath u ++ writePart '?' u.query) = (writePath u, u.query) :=
    splitAt_append h.not_mem_question u.query
  have hpath : parsePath (writePath u) = u.segments := parsePath_written h.path h.segments
  have hown : (if u.port = defaultPort u.scheme then none else u.port) = u.port := by
    split_ifs with hdefault
    · cases hport : u.port with
      | none => rfl
      | some p => exact absurd (hport ▸ hdefault) (h.port p hport).2
    · rfl
  have hencodedQuery : u.query.map (percentEncode querySet) = u.query := by
    cases hq : u.query with
    | none => rfl
    | some q => exact congrArg some (percentEncode_of_encoded (h.query q hq))
  have hencodedFragment : u.fragment.map (percentEncode fragmentSet) = u.fragment := by
    cases hf : u.fragment with
    | none => rfl
    | some f => exact congrArg some (percentEncode_of_encoded (h.fragment f hf))
  rw [parseWeb_eq_ok_iff]
  simp only [hsplit, hcredentials, hhost]
  refine ⟨u.host, u.port, writeTarget u, h.host.nonempty, h.host.reads, hport, ?_⟩
  simp only [hfragment, hquery, hpath, hown, hencodedQuery, hencodedFragment]

/-- A URL in normal form is read as it was written. -/
theorem parse_write (h : Normal u) : parse u.write = .ok u := by
  have hvisible : ∀ c ∈ u.write, 0x20 < c.toNat := fun c hc => h.visible hc
  obtain ⟨c, rest, hfirst, hslash⟩ := h.writeAuthority_cons
  have hbehind : ("//".toList ++ (writeAuthority u ++ writeTarget u)).dropWhile (isSlash true) =
      writeAuthority u ++ writeTarget u := by
    rw [List.dropWhile_append_of_pos (List.all_eq_true.mp (by decide)), hfirst, List.cons_append,
      List.dropWhile_cons_of_neg (by simp [hslash])]
  have hscheme : takeScheme u.write =
      some (u.scheme, "//".toList ++ (writeAuthority u ++ writeTarget u)) ∧
      kindOf u.scheme = .web := by
    rw [write_eq]
    rcases h.scheme with hs | hs
    · rw [hs]
      exact ⟨rfl, by decide⟩
    · rw [hs]
      exact ⟨rfl, by decide⟩
  have hsome : u.write.isEmpty = false := by
    rw [write_eq]
    rcases h.scheme with hs | hs
    · rw [hs]
      rfl
    · rw [hs]
      rfl
  unfold parse
  simp only [hsome, clean_of_visible hvisible, hscheme.1, hscheme.2, hbehind, h.parseWeb_write,
    h.scheme]
  rfl

end Normal
end Reading

section Normal

/-! ### What is read is in normal form. -/

variable {s : List Char}

theorem plain_nil : Plain [] where
  encoded := by simp [Encoded]
  whole := by simp
  notDot := by decide
  notDoubleDot := by decide

theorem plain_of_mem_resolve {segments : List (List Char)}
    (h : ∀ s ∈ segments, Encoded pathSet s ∧ ∀ c ∈ s, isSlash true c = false)
    {path : List (List Char)} (hpath : ∀ s ∈ path, Plain s) :
    ∀ s ∈ resolve path segments, Plain s := by
  have hlast : ∀ {path : List (List Char)} {s : List Char}, (∀ t ∈ path, Plain t) → Plain s →
      ∀ t ∈ path ++ [s], Plain t := by
    intro path s hpath hs t ht
    rcases List.mem_append.mp ht with ht | ht
    · exact hpath t ht
    · exact List.mem_singleton.mp ht ▸ hs
  fun_induction resolve path segments with
  | case1 path => exact hpath
  | case2 path last hdouble =>
    exact hlast (fun t ht => hpath t (List.dropLast_subset path ht)) plain_nil
  | case3 path last hdouble hdot => exact hlast hpath plain_nil
  | case4 path last hdouble hdot =>
    obtain ⟨hencoded, hwhole⟩ := h last List.mem_cons_self
    exact hlast hpath ⟨hencoded, hwhole, Bool.eq_false_iff.mpr hdot, Bool.eq_false_iff.mpr hdouble⟩
  | case5 path segment rest hrest hdouble ih =>
    exact ih (fun s hs => h s (List.mem_cons_of_mem segment hs))
      fun t ht => hpath t (List.dropLast_subset path ht)
  | case6 path segment rest hrest hdouble hdot ih =>
    exact ih (fun s hs => h s (List.mem_cons_of_mem segment hs)) hpath
  | case7 path segment rest hrest hdouble hdot ih =>
    obtain ⟨hencoded, hwhole⟩ := h segment List.mem_cons_self
    exact ih (fun s hs => h s (List.mem_cons_of_mem segment hs))
      (hlast hpath ⟨hencoded, hwhole, Bool.eq_false_iff.mpr hdot, Bool.eq_false_iff.mpr hdouble⟩)

theorem resolve_ne_nil {segments : List (List Char)} (h : segments ≠ []) (path : List (List Char)) :
    resolve path segments ≠ [] := by
  fun_induction resolve path segments with
  | case1 path => exact absurd rfl h
  | case2 path last hdouble => simp
  | case3 path last hdouble hdot => simp
  | case4 path last hdouble hdot => simp
  | case5 path segment rest hrest hdouble ih => exact ih hrest
  | case6 path segment rest hrest hdouble hdot ih => exact ih hrest
  | case7 path segment rest hrest hdouble hdot ih => exact ih hrest

theorem not_isSlash_escape : ∀ c ∈ "%0123456789ABCDEF".toList, isSlash true c = false :=
  List.all_iff_forall_prop.mp (by decide)

theorem plain_of_parsePath : parsePath s ≠ [] ∧ ∀ segment ∈ parsePath s, Plain segment := by
  have hinner : ∃ inner : List Char, parsePath s =
      resolve [] ((inner.splitOnP (isSlash true)).map (percentEncode pathSet)) := ⟨_, rfl⟩
  obtain ⟨inner, hpath⟩ := hinner
  have hsome : (inner.splitOnP (isSlash true)).map (percentEncode pathSet) ≠ [] := by
    simp [List.splitOnP_ne_nil]
  rw [hpath]
  refine ⟨resolve_ne_nil hsome [], plain_of_mem_resolve (fun segment hsegment => ?_) (by simp)⟩
  obtain ⟨part, hpart, rfl⟩ := List.mem_map.mp hsegment
  refine ⟨encoded_percentEncode escapes_pathSet part, fun c hc => ?_⟩
  rcases mem_percentEncode hc with hescape | ⟨hkept, -⟩
  · exact not_isSlash_escape c hescape
  · exact (of_mem_splitOnP hpart c hkept).2

theorem le_of_takePort {port : Option Nat} {after : List Char}
    (h : takePort s = .ok (port, after)) : ∀ p ∈ port, p ≤ 65535 := by
  unfold takePort at h
  split at h
  · dsimp only at h
    split_ifs at h with hlarge hend hnone
    · cases h
      simp
    · cases h
      intro p hp
      obtain rfl := Option.some.inj hp
      exact Nat.le_of_not_lt hlarge
  · cases h
    simp

theorem normal_of_parseWeb {scheme : List Char} {u : Url}
    (hscheme : scheme = "http".toList ∨ scheme = "https".toList)
    (h : parseWeb scheme s = .ok u) : Normal u := by
  obtain ⟨host, port, target, -, hhost, hport, rfl⟩ := parseWeb_eq_ok_iff.mp h
  constructor
  · exact hscheme
  · exact encoded_percentEncode escapes_userinfoSet _
  · exact encoded_percentEncode escapes_userinfoSet _
  · exact settled_of_parseHost hhost
  · intro p hp
    dsimp only at hp ⊢
    split_ifs at hp with hdefault
    · cases hp
    · exact ⟨le_of_takePort hport p hp, Option.mem_def.mp hp ▸ hdefault⟩
  · exact plain_of_parsePath.1
  · exact plain_of_parsePath.2
  · intro q hq
    obtain ⟨raw, -, rfl⟩ := Option.map_eq_some_iff.mp hq
    exact encoded_percentEncode escapes_querySet raw
  · intro f hf
    obtain ⟨raw, -, rfl⟩ := Option.map_eq_some_iff.mp hf
    exact encoded_percentEncode escapes_fragmentSet raw

/-- Every URL that is read is in normal form. -/
theorem normal_of_parse {u : Url} (h : parse s = .ok u) : Normal u := by
  unfold parse at h
  split_ifs at h
  split at h
  · cases h
  · next scheme rest hsplit =>
    split at h
    · cases hweb : parseWeb scheme (rest.dropWhile (isSlash true)) with
      | error f =>
        rw [hweb] at h
        cases h
      | ok v =>
        rw [hweb] at h
        change (if scheme = "http".toList ∨ scheme = "https".toList then _ else _) = _ at h
        split_ifs at h with hscheme
        cases h
        exact normal_of_parseWeb hscheme hweb
    · cases hfile : checkFile rest with
      | error f => rw [hfile] at h; cases h
      | ok v => rw [hfile] at h; cases h
    · cases hother : checkOther rest with
      | error f => rw [hother] at h; cases h
      | ok v => rw [hother] at h; cases h

end Normal
end Banter.Url
