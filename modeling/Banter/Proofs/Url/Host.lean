import Banter.Proofs.Url.Address
import Banter.Proofs.Url.Domain
import Banter.Url.Parser

/-! A host is read again as it was written. -/
namespace Banter.Url

/-- A host that is written such that it can be found in a URL and read again. -/
structure Host.Settled (h : Host) : Prop where
  reads : parseHost h.write = .ok h
  nonempty : h.write ≠ []
  quiet : ∀ c ∈ h.write, endsAuthority true c = false ∧ c ≠ '@' ∧ 0x20 < c.toNat
  /-- It goes up to the colon of a port, or to the end of its part. -/
  cut : ∀ rest : List Char, (∀ c ∈ rest.head?, endsAuthority true c = true ∨ c = ':') →
    splitHost true false (h.write ++ rest) = (h.write, rest)

section Cut

variable {rest : List Char}

theorem splitHost_stop (hrest : ∀ c ∈ rest.head?, endsAuthority true c = true ∨ c = ':') :
    splitHost true false rest = ([], rest) := by
  cases rest with
  | nil => rfl
  | cons c more =>
    have hc : (endsAuthority true c || decide (c = ':') && !false) = true := by
      rcases hrest c rfl with hc | rfl
      · rw [hc]
        rfl
      · rfl
    rw [splitHost, if_pos hc]

theorem splitHost_of_open (hrest : ∀ c ∈ rest.head?, endsAuthority true c = true ∨ c = ':')
    {name : List Char}
    (hname : ∀ c ∈ name, endsAuthority true c = false ∧ c ≠ ':' ∧ c ≠ '[') :
    splitHost true false (name ++ rest) = (name, rest) := by
  induction name with
  | nil => exact splitHost_stop hrest
  | cons c more ih =>
    obtain ⟨hc, hcolon, hbracket⟩ := hname c List.mem_cons_self
    have hmore := ih fun d hd => hname d (List.mem_cons_of_mem c hd)
    simp [splitHost, hc, hcolon, hbracket, hmore]

theorem splitHost_of_brackets (hrest : ∀ c ∈ rest.head?, endsAuthority true c = true ∨ c = ':')
    {inner : List Char} (hinner : ∀ c ∈ inner, endsAuthority true c = false ∧ c ≠ '[' ∧ c ≠ ']') :
    splitHost true false ('[' :: inner ++ ']' :: rest) = ('[' :: inner ++ [']'], rest) := by
  have hclosing : splitHost true true (inner ++ ']' :: rest) = (inner ++ [']'], rest) := by
    induction inner with
    | nil => simp [splitHost, endsAuthority, isSlash, splitHost_stop hrest]
    | cons c more ih =>
      obtain ⟨hc, hopening, hclosing⟩ := hinner c List.mem_cons_self
      have hmore := ih fun d hd => hinner d (List.mem_cons_of_mem c hd)
      simp [splitHost, hc, hopening, hclosing, hmore]
  simp [splitHost, endsAuthority, isSlash, hclosing]

end Cut

section Domain

theorem encode_of_ascii {s : List Char} (h : ∀ c ∈ s, c.toNat < 0x80) :
    Text.Utf8.encode s = s.map Char.toNat := by
  induction s with
  | nil => rfl
  | cons c rest ih =>
    have hc : Text.Utf8.encodeChar c = [c.toNat] := by
      rw [Text.Utf8.encodeChar, if_pos (h c List.mem_cons_self)]
    rw [Text.Utf8.encode, List.flatMap_cons, hc]
    exact congrArg (c.toNat :: ·) (ih fun d hd => h d (List.mem_cons_of_mem c hd))

theorem decode_of_ascii {s : List Char} (h : ∀ c ∈ s, c.toNat < 0x80) :
    Text.Utf8.decode? (s.map Char.toNat) = some s := by
  have hread : Text.Utf8.decodeFrom 0 (s.map Char.toNat) = s.map some := by
    induction s with
    | nil => rfl
    | cons c rest ih =>
      have hlead : Text.Utf8.lead? c.toNat = some ⟨0, 0x80, 0xbf, c.toNat⟩ := by
        rw [Text.Utf8.lead?, if_pos (h c List.mem_cons_self)]
      have hrest := ih fun d hd => h d (List.mem_cons_of_mem c hd)
      rw [List.map_cons, Text.Utf8.decodeFrom, hlead]
      simp [Text.Utf8.follow, hrest]
  rw [Text.Utf8.decode?, hread, mapM_eq_some_iff]
  exact List.forall₂_map_left_iff.mpr (List.forall₂_same.mpr fun c _ => rfl)

theorem percentDecode_of_none {bytes : List Nat} (h : 0x25 ∉ bytes) :
    percentDecode bytes = bytes := by
  induction bytes with
  | nil => rfl
  | cons b rest ih =>
    have hb : b ≠ 0x25 := fun hb => h (hb ▸ List.mem_cons_self)
    have hrest := ih fun hmem => h (List.mem_cons_of_mem b hmem)
    unfold percentDecode
    split
    · next heq => exact absurd (List.cons.inj heq).1 hb
    · next heq =>
      obtain ⟨rfl, rfl⟩ := List.cons.inj heq
      rw [hrest]
    · next heq => cases heq

/-- A name that is read as it stands. -/
structure IsDomain (name : List Char) : Prop where
  fixed : domainToAscii name = some name
  nonempty : name ≠ []
  ascii : ∀ c ∈ name, c.toNat < 0x80
  allowed : ∀ c ∈ name, forbidden c = false

variable {name : List Char}

theorem IsDomain.decoded (h : IsDomain name) :
    Text.Utf8.decode? (percentDecode (Text.Utf8.encode name)) = some name := by
  have hpercent : 0x25 ∉ name.map Char.toNat := by
    intro hmem
    obtain ⟨c, hc, hpercent⟩ := List.mem_map.mp hmem
    obtain rfl : c = '%' := Char.toNat_inj.mp hpercent
    exact absurd (h.allowed '%' hc) (by decide)
  rw [encode_of_ascii h.ascii, percentDecode_of_none hpercent, decode_of_ascii h.ascii]

theorem parseHost_of_domain {s decoded : List Char} (hs : ∀ inner, s ≠ '[' :: inner)
    (hdecoded : Text.Utf8.decode? (percentDecode (Text.Utf8.encode s)) = some decoded)
    (hname : domainToAscii decoded = some name) (hsome : name ≠ []) {h : Host}
    (hread : if endsInNumber name then ∃ address, parseIpv4 name = some address ∧ h = .ipv4 address
      else h = .domain name) :
    parseHost s = .ok h := by
  unfold parseHost
  split
  · next inner => exact absurd rfl (hs inner)
  · rw [hdecoded]
    dsimp only
    rw [hname]
    split
    · next heq => cases heq
    · next heq => exact absurd (Option.some.inj heq) hsome
    · next heq =>
      obtain rfl := Option.some.inj heq
      split_ifs at hread ⊢
      · obtain ⟨address, haddress, rfl⟩ := hread
        rw [haddress]
      · rw [hread]

theorem IsDomain.reads (hname : IsDomain name) {h : Host}
    (hread : if endsInNumber name then ∃ address, parseIpv4 name = some address ∧ h = .ipv4 address
      else h = .domain name) :
    parseHost name = .ok h := by
  refine parseHost_of_domain ?_ hname.decoded hname.fixed hname.nonempty hread
  rintro inner rfl
  exact absurd (hname.allowed '[' List.mem_cons_self) (by decide)

theorem IsDomain.quiet (h : IsDomain name) {c : Char} (hc : c ∈ name) :
    endsAuthority true c = false ∧ c ≠ '@' ∧ 0x20 < c.toNat ∧ c ≠ ':' ∧ c ≠ '[' := by
  have hallowed := h.allowed c hc
  unfold forbidden at hallowed
  simp [endsAuthority, isSlash] at hallowed ⊢
  grind

theorem IsDomain.settled (hname : IsDomain name) {h : Host} (hwrite : h.write = name)
    (hreads : parseHost name = .ok h) : h.Settled where
  reads := by rw [hwrite, hreads]
  nonempty := by rw [hwrite]; exact hname.nonempty
  quiet := by
    intro c hc
    have hquiet := hname.quiet (hwrite ▸ hc)
    exact ⟨hquiet.1, hquiet.2.1, hquiet.2.2.1⟩
  cut := by
    intro rest hrest
    rw [hwrite]
    refine splitHost_of_open hrest fun c hc => ?_
    have hquiet := hname.quiet hc
    exact ⟨hquiet.1, hquiet.2.2.2⟩

end Domain

section Ipv4

theorem digitChar_plain :
    ∀ d < 10, Written (Nat.digitChar d) ∧ forbidden (Nat.digitChar d) = false ∧
      isMark (Nat.digitChar d) = false ∧ isDirected [Nat.digitChar d] = false ∧
        Nat.digitChar d ≠ 'x' ∧ Nat.digitChar d ≠ joiner ∧ Nat.digitChar d ≠ nonJoiner := by
  unfold Written
  decide

theorem joinersFit_of_none {label : List Char} (h : ∀ c ∈ label, c ≠ joiner ∧ c ≠ nonJoiner)
    (before : List Char) : joinersFit before label = true := by
  induction label generalizing before with
  | nil => rfl
  | cons c rest ih =>
    obtain ⟨⟨hjoiner, hnone⟩, hrest⟩ := List.forall_mem_cons.mp h
    simp [joinersFit, hjoiner, hnone, ih hrest]

theorem domainToAscii_writeIpv4 (address : Nat) :
    domainToAscii (writeIpv4 address) = some (writeIpv4 address) := by
  have hdigits : ∀ part ∈ writtenBytes address, part ≠ [] ∧
      ∀ c ∈ part, ∃ d < 10, c = Nat.digitChar d := by
    intro part hpart
    obtain ⟨i, -, rfl⟩ := List.mem_map.mp hpart
    exact ⟨Nat.toDigits_ne_nil, fun c hc => mem_toDigits (by decide) hc⟩
  have hread : ∀ part ∈ writtenBytes address, readLabel part = some part := by
    intro part hpart
    obtain ⟨hsome, hpart⟩ := hdigits part hpart
    obtain ⟨c, rest, rfl⟩ := List.exists_cons_of_ne_nil hsome
    obtain ⟨d, hd, rfl⟩ := hpart c List.mem_cons_self
    obtain ⟨-, -, hmark, -, hx, -, -⟩ := digitChar_plain d hd
    have hunmarked : asciiMark.isPrefixOf (Nat.digitChar d :: rest) = false := by
      simp [asciiMark, List.isPrefixOf, hx.symm]
    have hjoiners : joinersFit [] (Nat.digitChar d :: rest) = true := by
      refine joinersFit_of_none (fun c hc => ?_) []
      obtain ⟨e, he, rfl⟩ := hpart c hc
      exact (digitChar_plain e he).2.2.2.2.2
    simp [readLabel, hunmarked, wellFormed, hmark, hjoiners]
  have hundirected : (writtenBytes address).any isDirected = false := by
    rw [List.any_eq_false]
    intro part hpart
    rw [Bool.not_eq_true, isDirected, List.any_eq_false]
    intro c hc
    obtain ⟨d, hd, rfl⟩ := (hdigits part hpart).2 c hc
    obtain ⟨-, -, -, hdirected, -⟩ := digitChar_plain d hd
    simpa [isDirected] using hdirected
  have hall : (writtenBytes address).mapM readLabel = some (writtenBytes address) := by
    rw [mapM_eq_some_iff, List.forall₂_same]
    exact hread
  refine domainToAscii_written (List.cons_ne_nil _ _) ?_ hall ?_ ?_
  · intro part hpart c hc
    obtain ⟨d, hd, rfl⟩ := (hdigits part hpart).2 c hc
    exact (digitChar_plain d hd).1
  · rw [directionsFit, hundirected]
    rfl
  · intro c hc
    rcases mem_of_mem_intercalate hc with rfl | ⟨part, hpart, hc⟩
    · decide
    · obtain ⟨d, hd, rfl⟩ := (hdigits part hpart).2 c hc
      exact (digitChar_plain d hd).2.1

end Ipv4

section Ipv6

variable {groups : List Nat}

theorem mem_writeGroups {c : Char} (h : c ∈ writeGroups groups) :
    c = ':' ∨ ∃ d < 16, c = Nat.digitChar d := by
  rcases mem_of_mem_intercalate h with hcolon | ⟨digits, hdigits, hc⟩
  · exact .inl hcolon
  · obtain ⟨g, -, rfl⟩ := List.mem_map.mp hdigits
    exact .inr (mem_toDigits (by decide) hc)

theorem mem_writeIpv6 {c : Char} (h : c ∈ writeIpv6 groups) :
    c = ':' ∨ ∃ d < 16, c = Nat.digitChar d := by
  unfold writeIpv6 at h
  split at h
  · exact mem_writeGroups h
  · rcases List.mem_append.mp h with hfront | hrest
    · exact mem_writeGroups hfront
    · rcases List.mem_cons.mp hrest with rfl | hrest
      · exact .inl rfl
      · rcases List.mem_cons.mp hrest with rfl | hback
        · exact .inl rfl
        · exact mem_writeGroups hback

theorem quiet_digitChar : ∀ d < 16, endsAuthority true (Nat.digitChar d) = false ∧
    Nat.digitChar d ≠ '@' ∧ 0x20 < (Nat.digitChar d).toNat ∧ Nat.digitChar d ≠ '[' ∧
      Nat.digitChar d ≠ ']' := by
  decide

theorem quiet_writeIpv6 {c : Char} (h : c ∈ writeIpv6 groups) :
    endsAuthority true c = false ∧ c ≠ '@' ∧ 0x20 < c.toNat ∧ c ≠ '[' ∧ c ≠ ']' := by
  rcases mem_writeIpv6 h with rfl | ⟨d, hd, rfl⟩
  · decide
  · exact quiet_digitChar d hd

theorem settled_of_groups (h : Groups groups) : (Host.ipv6 groups).Settled where
  reads := by
    have hlast : (writeIpv6 groups ++ [']']).getLast? = some ']' := List.getLast?_concat
    have hinner : (writeIpv6 groups ++ [']']).dropLast = writeIpv6 groups := List.dropLast_concat
    simp [Host.write, parseHost, hlast, hinner, parseIpv6_writeIpv6 h]
  nonempty := by simp [Host.write]
  quiet := by
    intro c hc
    have hbrackets : c = '[' ∨ c ∈ writeIpv6 groups ∨ c = ']' := by
      simpa [Host.write] using hc
    rcases hbrackets with rfl | hc | rfl
    · decide
    · have hquiet := quiet_writeIpv6 hc
      exact ⟨hquiet.1, hquiet.2.1, hquiet.2.2.1⟩
    · decide
  cut := by
    intro rest hrest
    have hinner : ∀ c ∈ writeIpv6 groups, endsAuthority true c = false ∧ c ≠ '[' ∧ c ≠ ']' := by
      intro c hc
      have hquiet := quiet_writeIpv6 hc
      exact ⟨hquiet.1, hquiet.2.2.2⟩
    simpa [Host.write] using splitHost_of_brackets hrest hinner

end Ipv6

theorem isDomain_of_domainToAscii {s domain : List Char} (h : domainToAscii s = some domain)
    (hdomain : domain ≠ []) : IsDomain domain where
  fixed := domainToAscii_again h
  nonempty := hdomain
  ascii := fun c hc => (plain_of_domainToAscii h c hc).2
  allowed := fun c hc => (plain_of_domainToAscii h c hc).1

theorem isDomain_writeIpv4 (address : Nat) : IsDomain (writeIpv4 address) :=
  isDomain_of_domainToAscii (domainToAscii_writeIpv4 address) (by simp [writeIpv4])

/-- Every host that was read is written such that it is read again. -/
theorem settled_of_parseHost {s : List Char} {h : Host} (hs : parseHost s = .ok h) : h.Settled := by
  unfold parseHost at hs
  split at hs
  · split_ifs at hs
    split at hs
    · next groups hgroups =>
      obtain rfl := Except.ok.inj hs
      exact settled_of_groups (groups_of_parseIpv6 hgroups)
    · cases hs
  · split at hs
    · cases hs
    · split at hs
      · cases hs
      · cases hs
      · next domain hsome hdomain =>
        have hname : IsDomain domain := isDomain_of_domainToAscii hdomain hsome
        split at hs
        · next hnumber =>
          split at hs
          · next address haddress =>
            obtain rfl := Except.ok.inj hs
            have hwritten := isDomain_writeIpv4 address
            have hread := parseIpv4_writeIpv4 (lt_of_parseIpv4 haddress)
            refine hwritten.settled rfl (hwritten.reads ?_)
            rw [if_pos (endsInNumber_writeIpv4 address)]
            exact ⟨address, hread, rfl⟩
          · cases hs
        · next hnumber =>
          obtain rfl := Except.ok.inj hs
          refine hname.settled rfl (hname.reads ?_)
          rw [if_neg hnumber]

end Banter.Url
