import Banter.Proofs.Url.Parts
import Banter.Url.Host
import Mathlib.Algebra.Ring.Nat
import Mathlib.Data.List.Induction

/-! Addresses in numbers are read again as they were written. -/
namespace Banter.Url

section Digits

theorem mem_toDigits {b n : Nat} (hb : 1 < b) {c : Char} (h : c ∈ Nat.toDigits b n) :
    ∃ d < b, c = Nat.digitChar d := by
  induction n using Nat.strongRecOn with
  | ind n ih =>
    rw [Nat.toDigits_eq_if hb] at h
    split_ifs at h with hn
    · exact ⟨n, hn, List.mem_singleton.mp h⟩
    · rcases List.mem_append.mp h with h | h
      · exact ih (n / b) (Nat.div_lt_self (by omega) hb) h
      · exact ⟨n % b, Nat.mod_lt n (by omega), List.mem_singleton.mp h⟩

theorem hexValue_digitChar : ∀ d < 16, Text.hexValue (Nat.digitChar d) = some d := by
  decide

def hexSum (digits : List Char) : Nat :=
  digits.foldl (fun n c => 16 * n + (Text.hexValue c).getD 0) 0

theorem hexSum_toDigits (n : Nat) : hexSum (Nat.toDigits 16 n) = n := by
  induction n using Nat.strongRecOn with
  | ind n ih =>
    rw [Nat.toDigits_eq_if (by decide)]
    split_ifs with hn
    · simp [hexSum, hexValue_digitChar n hn]
    · have hrest := ih (n / 16) (by omega)
      unfold hexSum at hrest ⊢
      rw [List.foldl_append, hrest, List.foldl_cons, List.foldl_nil,
        hexValue_digitChar (n % 16) (by omega), Option.getD_some]
      omega

theorem isSome_hexValue_of_mem {n : Nat} {c : Char} (h : c ∈ Nat.toDigits 16 n) :
    (Text.hexValue c).isSome = true := by
  obtain ⟨d, hd, rfl⟩ := mem_toDigits (by decide) h
  rw [hexValue_digitChar d hd]
  rfl

theorem hexValue_lt {c : Char} {v : Nat} (h : Text.hexValue c = some v) : v < 16 := by
  unfold Text.hexValue at h
  split_ifs at h with hdigit hlower hupper
  all_goals obtain rfl := Option.some.inj h
  · have hlast := (Char.isDigit_iff_toNat.mp hdigit).2
    simp at hlast
    omega
  · have hlast : c.toNat ≤ 'f'.toNat := hlower.2
    simp at hlast
    omega
  · have hlast : c.toNat ≤ 'F'.toNat := hupper.2
    simp at hlast
    omega

theorem hexSum_lt (digits : List Char) : hexSum digits < 16 ^ digits.length := by
  induction digits using List.reverseRecOn with
  | nil => decide
  | append_singleton digits c ih =>
    have hc : (Text.hexValue c).getD 0 < 16 := by
      cases hvalue : Text.hexValue c with
      | none => decide
      | some v => exact hexValue_lt hvalue
    unfold hexSum at ih ⊢
    rw [List.foldl_append, List.foldl_cons, List.foldl_nil, List.length_append,
      List.length_singleton, Nat.pow_succ]
    omega

end Digits

section Ipv4

def writtenBytes (address : Nat) : List (List Char) :=
  [3, 2, 1, 0].map fun i => Nat.toDigits 10 (address / Nat.pow 256 i % 256)

theorem not_mem_writtenBytes {address : Nat} : ∀ s ∈ writtenBytes address, '.' ∉ s := by
  intro s hs hdot
  obtain ⟨i, -, rfl⟩ := List.mem_map.mp hs
  exact absurd (Nat.isDigit_of_mem_toDigits (by decide) (by decide) hdot) (by decide)

theorem splitOn_writeIpv4 (address : Nat) :
    (writeIpv4 address).splitOn '.' = writtenBytes address :=
  List.splitOn_intercalate '.' not_mem_writtenBytes (List.cons_ne_nil _ _)

theorem addressParts_writeIpv4 (address : Nat) :
    addressParts (writeIpv4 address) = writtenBytes address := by
  have hlast : (writtenBytes address).getLast? ≠ some [] := by
    simp [writtenBytes, Nat.toDigits_ne_nil]
  rw [addressParts, splitOn_writeIpv4]
  exact if_neg hlast

theorem endsInNumber_writeIpv4 (address : Nat) : endsInNumber (writeIpv4 address) = true := by
  have hdigits : (Nat.toDigits 10 (address / Nat.pow 256 0 % 256)).all Char.isDigit = true :=
    List.all_eq_true.mpr fun c hc => Nat.isDigit_of_mem_toDigits (by decide) (by decide) hc
  have hsome : (Nat.toDigits 10 (address / Nat.pow 256 0 % 256)).isEmpty = false :=
    List.isEmpty_eq_false_iff.mpr Nat.toDigits_ne_nil
  have hlast : (writtenBytes address).getLast? =
      some (Nat.toDigits 10 (address / Nat.pow 256 0 % 256)) := rfl
  rw [endsInNumber, addressParts_writeIpv4, hlast]
  simp only [hdigits, hsome]
  rfl

theorem ipv4Number_toDigits : ∀ n < 256, ipv4Number (Nat.toDigits 10 n) = some n := by
  decide +kernel

theorem parseIpv4_writeIpv4 {address : Nat} (h : address < 256 ^ 4) :
    parseIpv4 (writeIpv4 address) = some address := by
  have hnumbers : (writtenBytes address).mapM ipv4Number =
      some ([3, 2, 1, 0].map fun i => address / Nat.pow 256 i % 256) := by
    have hbyte : ∀ n, ipv4Number (Nat.toDigits 10 (n % 256)) = some (n % 256) :=
      fun n => ipv4Number_toDigits _ (Nat.mod_lt n (by decide))
    simp [writtenBytes, hbyte]
  unfold parseIpv4
  dsimp only
  rw [addressParts_writeIpv4, hnumbers, if_neg (by simp [writtenBytes])]
  have hfit : (address / 16777216 % 256 ≤ 255 ∧ address / 65536 % 256 ≤ 255 ∧
      address / 256 % 256 ≤ 255) ∧ address % 256 < 256 := by omega
  have hwhole : (256 * (256 * (address / 16777216 % 256) + address / 65536 % 256) +
      address / 256 % 256) * 256 + address % 256 = address := by omega
  simpa using And.intro hfit hwhole

theorem foldl_bytes_lt {bytes : List Nat} (h : bytes.any (255 < ·) = false) :
    bytes.foldl (fun n byte => 256 * n + byte) 0 < 256 ^ bytes.length := by
  induction bytes using List.reverseRecOn with
  | nil => decide
  | append_singleton bytes b ih =>
    rw [List.any_append, Bool.or_eq_false_iff] at h
    have hb : b ≤ 255 := by simpa using h.2
    have hrest := ih h.1
    rw [List.foldl_append, List.foldl_cons, List.foldl_nil, List.length_append,
      List.length_singleton, Nat.pow_succ]
    omega

theorem lt_of_parseIpv4 {s : List Char} {address : Nat} (h : parseIpv4 s = some address) :
    address < 256 ^ 4 := by
  unfold parseIpv4 at h
  dsimp only at h
  split_ifs at h with hlong
  obtain ⟨numbers, hnumbers, last, hlast, ⟨hbytes, hroom⟩, hvalue⟩ : ∃ numbers,
      (addressParts s).mapM ipv4Number = some numbers ∧ ∃ last, numbers.getLast? = some last ∧
        (numbers.dropLast.any (255 < ·) = false ∧ last < 256 ^ (4 - numbers.dropLast.length)) ∧
          numbers.dropLast.foldl (fun n byte => 256 * n + byte) 0 *
            256 ^ (4 - numbers.dropLast.length) + last = address := by
    simpa [Option.bind_eq_some_iff] using h
  have hlength := (mapM_eq_some_iff.mp hnumbers).length_eq
  have hshort : numbers.dropLast.length ≤ 4 := by
    rw [List.length_dropLast]
    omega
  have hfirst := foldl_bytes_lt hbytes
  have hpower : 256 ^ numbers.dropLast.length * 256 ^ (4 - numbers.dropLast.length) = 256 ^ 4 := by
    rw [← Nat.pow_add, Nat.add_sub_cancel' hshort]
  rw [← hvalue, ← hpower]
  calc _ < numbers.dropLast.foldl (fun n byte => 256 * n + byte) 0 *
            256 ^ (4 - numbers.dropLast.length) + 256 ^ (4 - numbers.dropLast.length) :=
        Nat.add_lt_add_left hroom _
    _ = (numbers.dropLast.foldl (fun n byte => 256 * n + byte) 0 + 1) *
            256 ^ (4 - numbers.dropLast.length) := (Nat.succ_mul _ _).symm
    _ ≤ _ := Nat.mul_le_mul_right _ hfirst

end Ipv4

section Ipv6

theorem takeGroup_toDigits {g : Nat} (hg : g < 0x10000) {rest : List Char}
    (hrest : ∀ c ∈ rest.head?, Text.hexValue c = none) :
    takeGroup (Nat.toDigits 16 g ++ rest) = ((Nat.toDigits 16 g).length, g, rest) := by
  have hlength : (Nat.toDigits 16 g).length ≤ 4 :=
    (Nat.length_toDigits_le_iff (by decide) (by decide)).mpr hg
  have hall : ∀ c ∈ Nat.toDigits 16 g, (Text.hexValue c).isSome = true :=
    fun c hc => isSome_hexValue_of_mem hc
  have hdigits : ((Nat.toDigits 16 g ++ rest).take 4).takeWhile
      (fun c => (Text.hexValue c).isSome) = Nat.toDigits 16 g := by
    rw [List.take_append, List.take_of_length_le hlength, List.takeWhile_append_of_pos hall]
    cases rest with
    | nil => simp
    | cons c more =>
      have hc : Text.hexValue c = none := hrest c rfl
      cases 4 - (Nat.toDigits 16 g).length with
      | zero => simp
      | succ n => simp [hc]
  have hvalue : (Nat.toDigits 16 g).foldl (fun n c => 16 * n + (Text.hexValue c).getD 0) 0 = g :=
    hexSum_toDigits g
  unfold takeGroup
  simp only [hdigits, hvalue, List.drop_left]

/-- The groups read so far, with one for the gap if there was one. -/
def groupCount (before : Option (List Nat)) (groups : List Nat) : Nat :=
  (before.map (·.length + 1)).getD 0 + groups.length

theorem toDigits_head (g : Nat) : ∃ d ds, Nat.toDigits 16 g = d :: ds ∧ d ≠ ':' := by
  obtain ⟨d, ds, hd⟩ : ∃ d ds, Nat.toDigits 16 g = d :: ds :=
    List.exists_cons_of_ne_nil Nat.toDigits_ne_nil
  have hmem : d ∈ Nat.toDigits 16 g := hd ▸ List.mem_cons_self
  obtain ⟨v, -, rfl⟩ := mem_toDigits (by decide) hmem
  exact ⟨_, ds, hd, Nat.digitChar_ne ':' (by decide)⟩

theorem ipv6Groups_toDigits {fuel : Nat} {before : Option (List Nat)} {groups : List Nat} {g : Nat}
    (hg : g < 0x10000) {rest : List Char} (hrest : ∀ c ∈ rest.head?, c = ':')
    (hcount : groupCount before groups < 8) :
    ipv6Groups (fuel + 1) before groups (Nat.toDigits 16 g ++ rest) =
      match rest with
      | [] => ipv6Groups.finish before (groups ++ [g])
      | _ :: more => if more.isEmpty then none else ipv6Groups fuel before (groups ++ [g]) more := by
  have htaken : takeGroup (Nat.toDigits 16 g ++ rest) = ((Nat.toDigits 16 g).length, g, rest) := by
    apply takeGroup_toDigits hg
    intro c hc
    rw [hrest c hc]
    rfl
  obtain ⟨d, ds, hd, hcolon⟩ := toDigits_head g
  rw [hd, List.cons_append] at htaken ⊢
  conv_lhs => unfold ipv6Groups
  unfold groupCount at hcount
  dsimp only
  split
  · next h => cases h
  · next h => exact absurd (List.cons.inj h).1 hcolon
  · rw [if_neg (Nat.not_le.mpr hcount), htaken]
    cases rest with
    | nil => rfl
    | cons c more =>
      obtain rfl : c = ':' := hrest c rfl
      rfl

theorem writeGroups_cons_cons (g next : Nat) (more : List Nat) :
    writeGroups (g :: next :: more) = Nat.toDigits 16 g ++ ':' :: writeGroups (next :: more) := by
  simp [writeGroups, List.intercalate_cons_cons]

theorem isEmpty_writeGroups_cons (g : Nat) (gs : List Nat) :
    (writeGroups (g :: gs)).isEmpty = false := by
  rw [List.isEmpty_eq_false_iff]
  cases gs with
  | nil => simp [writeGroups, Nat.toDigits_ne_nil]
  | cons next more => simp [writeGroups_cons_cons]

theorem ipv6Groups_writeGroups {gs : List Nat} (hgs : ∀ g ∈ gs, g < 0x10000) {fuel : Nat}
    {before : Option (List Nat)} {groups : List Nat} (hfuel : (writeGroups gs).length < fuel)
    (hcount : groupCount before groups + gs.length ≤ 8) :
    ipv6Groups fuel before groups (writeGroups gs) = ipv6Groups.finish before (groups ++ gs) := by
  induction gs generalizing fuel groups with
  | nil =>
    obtain ⟨fuel, rfl⟩ := Nat.exists_eq_add_one_of_ne_zero (Nat.ne_zero_of_lt hfuel)
    rw [List.append_nil]
    rfl
  | cons g gs ih =>
    obtain ⟨fuel, rfl⟩ := Nat.exists_eq_add_one_of_ne_zero (Nat.ne_zero_of_lt hfuel)
    have hg := hgs g List.mem_cons_self
    have hroom : groupCount before groups < 8 := by
      rw [List.length_cons] at hcount
      omega
    cases gs with
    | nil =>
      have hone : writeGroups [g] = Nat.toDigits 16 g ++ [] := by simp [writeGroups]
      rw [hone, ipv6Groups_toDigits hg (by simp) hroom]
    | cons next more =>
      rw [writeGroups_cons_cons, List.length_append, List.length_cons] at hfuel
      have hfewer : groupCount before (groups ++ [g]) + (next :: more).length ≤ 8 := by
        rw [groupCount, List.length_append, List.length_singleton]
        rw [groupCount, List.length_cons] at hcount
        omega
      rw [writeGroups_cons_cons, ipv6Groups_toDigits hg (by simp) hroom]
      dsimp only
      rw [isEmpty_writeGroups_cons, if_neg Bool.false_ne_true,
        ih (fun v hv => hgs v (List.mem_cons_of_mem g hv)) (by omega) hfewer, List.append_assoc,
        List.singleton_append]

theorem ipv6Groups_gap {gs : List Nat} (hgs : ∀ g ∈ gs, g < 0x10000) (hsome : gs ≠ []) {fuel : Nat}
    {groups : List Nat} {rest : List Char}
    (hfuel : (writeGroups gs ++ ':' :: ':' :: rest).length < fuel)
    (hcount : groups.length + gs.length < 8) :
    ∃ fuel', rest.length < fuel' ∧
      ipv6Groups fuel none groups (writeGroups gs ++ ':' :: ':' :: rest) =
        ipv6Groups fuel' (some (groups ++ gs)) [] rest := by
  induction gs generalizing fuel groups with
  | nil => exact absurd rfl hsome
  | cons g gs ih =>
    obtain ⟨fuel, rfl⟩ := Nat.exists_eq_add_one_of_ne_zero (Nat.ne_zero_of_lt hfuel)
    have hg := hgs g List.mem_cons_self
    have hroom : groupCount none groups < 8 := by
      rw [List.length_cons] at hcount
      simp [groupCount]
      omega
    cases gs with
    | nil =>
      have hone : writeGroups [g] = Nat.toDigits 16 g := by simp [writeGroups]
      rw [List.length_append, List.length_cons, List.length_cons] at hfuel
      obtain ⟨fuel, rfl⟩ : ∃ more, fuel = more + 1 := ⟨fuel - 1, by omega⟩
      refine ⟨fuel, by omega, ?_⟩
      rw [hone, ipv6Groups_toDigits hg (by simp) hroom]
      have hfew : ¬ 7 ≤ groups.length := by
        rw [List.length_singleton] at hcount
        omega
      simp [ipv6Groups, hfew]
    | cons next more =>
      rw [writeGroups_cons_cons, List.length_append, List.length_append, List.length_cons] at hfuel
      rw [writeGroups_cons_cons, List.append_assoc, List.cons_append,
        ipv6Groups_toDigits hg (by simp) hroom]
      have hopen : (writeGroups (next :: more) ++ ':' :: ':' :: rest).isEmpty = false := by
        simp
      have hshort : (writeGroups (next :: more) ++ ':' :: ':' :: rest).length < fuel := by
        rw [List.length_append]
        omega
      have hfewer : (groups ++ [g]).length + (next :: more).length < 8 := by
        rw [List.length_append, List.length_singleton, List.length_cons]
        rw [List.length_cons, List.length_cons] at hcount
        omega
      obtain ⟨fuel', hrest, hread⟩ := ih (fun v hv => hgs v (List.mem_cons_of_mem g hv))
        (List.cons_ne_nil next more) hshort hfewer
      refine ⟨fuel', hrest, ?_⟩
      dsimp only
      rw [hopen, if_neg Bool.false_ne_true, hread, List.append_assoc, List.singleton_append]

theorem mem_zeroRuns {i : Nat} {gs : List Nat} {run : Nat × Nat} (h : run ∈ zeroRuns i gs) :
    ∃ front back, gs = front ++ List.replicate run.2 0 ++ back ∧ run.1 = i + front.length := by
  induction gs generalizing i run with
  | nil => cases h
  | cons g rest ih =>
    have hlater : run ∈ zeroRuns (i + 1) rest → ∃ front back,
        g :: rest = front ++ List.replicate run.2 0 ++ back ∧ run.1 = i + front.length := by
      intro hrun
      obtain ⟨front, back, hrest, hstart⟩ := ih hrun
      refine ⟨g :: front, back, by rw [hrest]; rfl, ?_⟩
      rw [hstart, List.length_cons]
      omega
    unfold zeroRuns at h
    split at h
    · split_ifs at h with hg
      · obtain rfl := List.mem_singleton.mp h
        exact ⟨[], rest, by rw [hg]; rfl, rfl⟩
      · cases h
    · next start length more hruns =>
      split_ifs at h with hg hnext
      · rcases List.mem_cons.mp h with rfl | hmore
        · -- The first run behind starts right here, so that this one goes on with it.
          obtain ⟨front, back, hrest, hstart⟩ := ih (hruns ▸ List.mem_cons_self)
          have hfront : front = [] := by
            apply List.eq_nil_of_length_eq_zero
            omega
          exact ⟨[], back, by rw [hrest, hfront, hg]; rfl, rfl⟩
        · exact hlater (hruns ▸ List.mem_cons_of_mem _ hmore)
      · rcases List.mem_cons.mp h with rfl | hmore
        · exact ⟨[], rest, by rw [hg]; rfl, rfl⟩
        · exact hlater (hruns ▸ hmore)
      · exact hlater (hruns ▸ h)

/-- What is picked from a list, one item at a time, stands in the list. -/
theorem mem_of_foldl_eq_some {α : Type} {pick : Option α → α → Option α}
    (hpick : ∀ best a, pick best a = some a ∨ pick best a = best) {items : List α} {a : α}
    (h : items.foldl pick none = some a) : a ∈ items := by
  have hfrom : ∀ (items : List α) (best : Option α), items.foldl pick best = some a →
      a ∈ items ∨ best = some a := by
    intro items
    induction items with
    | nil => exact fun best hbest => .inr hbest
    | cons first more ih =>
      intro best hbest
      rcases ih _ hbest with hmem | hfirst
      · exact .inl (List.mem_cons_of_mem first hmem)
      · rcases hpick best first with htaken | hleft
        · exact .inl (Option.some.inj (htaken.symm.trans hfirst) ▸ List.mem_cons_self)
        · exact .inr (hleft.symm.trans hfirst)
  rcases hfrom items none h with hmem | hnone
  · exact hmem
  · cases hnone

theorem omission_eq_some {gs : List Nat} {run : Nat × Nat} (h : omission gs = some run) :
    run ∈ zeroRuns 0 gs ∧ 1 < run.2 := by
  have hmem : run ∈ (zeroRuns 0 gs).filter (1 < ·.2) := by
    refine mem_of_foldl_eq_some (fun best next => ?_) h
    cases best with
    | none => exact .inl rfl
    | some b =>
      dsimp only
      split_ifs
      · exact .inl rfl
      · exact .inr rfl
  obtain ⟨hrun, hlong⟩ := List.mem_filter.mp hmem
  exact ⟨hrun, of_decide_eq_true hlong⟩

/-- Eight groups of sixteen bits. -/
def Groups (gs : List Nat) : Prop :=
  gs.length = 8 ∧ ∀ g ∈ gs, g < 0x10000

theorem writeGroups_head {g : Nat} {gs : List Nat} {rest : List Char} :
    ∃ c more, writeGroups (g :: gs) ++ rest = c :: more ∧ c ≠ ':' := by
  obtain ⟨d, ds, hd, hcolon⟩ := toDigits_head g
  cases gs with
  | nil => exact ⟨d, ds ++ rest, by simp [writeGroups, hd], hcolon⟩
  | cons next more => exact ⟨d, _, by rw [writeGroups_cons_cons, hd]; rfl, hcolon⟩

theorem parseIpv6_of_ne_colon {c : Char} {s : List Char} (hc : c ≠ ':') :
    parseIpv6 (c :: s) = ipv6Groups ((c :: s).length + 1) none [] (c :: s) := by
  unfold parseIpv6
  split
  · next h => exact absurd (List.cons.inj h).1 hc
  · next h => exact absurd (List.cons.inj h).1 hc
  · rfl

theorem parseIpv6_writeGroups {gs : List Nat} (h : Groups gs) :
    parseIpv6 (writeGroups gs) = some gs := by
  obtain ⟨hlength, hgs⟩ := h
  obtain ⟨g, rest, rfl⟩ : ∃ g rest, gs = g :: rest :=
    List.exists_cons_of_ne_nil (by rintro rfl; cases hlength)
  obtain ⟨c, more, hwritten, hcolon⟩ : ∃ c more, writeGroups (g :: rest) ++ [] = c :: more ∧
      c ≠ ':' := writeGroups_head
  rw [List.append_nil] at hwritten
  rw [hwritten, parseIpv6_of_ne_colon hcolon, ← hwritten,
    ipv6Groups_writeGroups hgs (Nat.lt_succ_self _) (by simp [groupCount, hlength])]
  simp [ipv6Groups.finish, hlength]

/-- A gap is read as the zeros that were left out. -/
theorem parseIpv6_gap {front back : List Nat} {n : Nat} (hn : 0 < n)
    (h : Groups (front ++ List.replicate n 0 ++ back)) :
    parseIpv6 (writeGroups front ++ ':' :: ':' :: writeGroups back) =
      some (front ++ List.replicate n 0 ++ back) := by
  obtain ⟨hlength, hgs⟩ := h
  rw [List.length_append, List.length_append, List.length_replicate] at hlength
  have hfinish : ipv6Groups.finish (some front) back =
      some (front ++ List.replicate n 0 ++ back) := by
    have hgap : 8 - front.length - back.length = n := by omega
    have hfit : front.length + back.length ≤ 7 := by omega
    simp [ipv6Groups.finish, hfit, hgap]
  have hfrontGroups : ∀ g ∈ front, g < 0x10000 := fun g hg => hgs g (by simp [hg])
  have hbackGroups : ∀ g ∈ back, g < 0x10000 := fun g hg => hgs g (by simp [hg])
  have hcount : groupCount (some front) [] + back.length ≤ 8 := by
    simp [groupCount]
    omega
  cases front with
  | nil =>
    have hbackRead : ipv6Groups ((':' :: ':' :: writeGroups back).length + 1) (some []) []
        (writeGroups back) = ipv6Groups.finish (some []) ([] ++ back) :=
      ipv6Groups_writeGroups hbackGroups (by simp; omega) hcount
    exact hbackRead.trans hfinish
  | cons g more =>
    obtain ⟨c, text, hwritten, hcolon⟩ : ∃ c text,
        writeGroups (g :: more) ++ ':' :: ':' :: writeGroups back = c :: text ∧ c ≠ ':' :=
      writeGroups_head
    have hfew : ([] : List Nat).length + (g :: more).length < 8 := by
      rw [List.length_nil]
      omega
    obtain ⟨fuel, hfuel, hread⟩ := ipv6Groups_gap hfrontGroups (List.cons_ne_nil g more)
      (Nat.lt_succ_self (writeGroups (g :: more) ++ ':' :: ':' :: writeGroups back).length) hfew
    rw [hwritten, parseIpv6_of_ne_colon hcolon, ← hwritten, hread, List.nil_append,
      ipv6Groups_writeGroups hbackGroups hfuel hcount, List.nil_append, hfinish]

theorem parseIpv6_writeIpv6 {gs : List Nat} (h : Groups gs) :
    parseIpv6 (writeIpv6 gs) = some gs := by
  unfold writeIpv6
  split
  · exact parseIpv6_writeGroups h
  · next start length hrun =>
    obtain ⟨hmem, hlong⟩ := omission_eq_some hrun
    obtain ⟨front, back, rfl, hstart⟩ := mem_zeroRuns hmem
    rw [Nat.zero_add] at hstart
    dsimp only at hstart hlong h ⊢
    have hfront : (front ++ List.replicate length 0 ++ back).take start = front := by
      rw [hstart, List.append_assoc, List.take_left]
    have hback : (front ++ List.replicate length 0 ++ back).drop (start + length) = back := by
      rw [hstart]
      exact List.drop_left' (by simp)
    rw [hfront, hback]
    exact parseIpv6_gap (Nat.lt_of_succ_lt hlong) h

theorem groups_of_finish {before : Option (List Nat)} {groups gs : List Nat}
    (hbefore : ∀ front ∈ before, ∀ g ∈ front, g < 0x10000) (hgroups : ∀ g ∈ groups, g < 0x10000)
    (h : ipv6Groups.finish before groups = some gs) : Groups gs := by
  unfold ipv6Groups.finish at h
  split at h
  · split_ifs at h with hlength
    exact Option.some.inj h ▸ ⟨hlength, hgroups⟩
  · next front =>
    split_ifs at h with hlength
    obtain rfl := Option.some.inj h
    refine ⟨by simp; omega, fun g hg => ?_⟩
    rcases List.mem_append.mp hg with hg | hg
    · rcases List.mem_append.mp hg with hg | hg
      · exact hbefore front rfl g hg
      · rw [List.eq_of_mem_replicate hg]
        decide
    · exact hgroups g hg

theorem lt_of_takeGroup (s : List Char) : (takeGroup s).2.1 < 0x10000 := by
  have hsum := hexSum_lt ((s.take 4).takeWhile fun c => (Text.hexValue c).isSome)
  have hshort : ((s.take 4).takeWhile fun c => (Text.hexValue c).isSome).length ≤ 4 := by
    have hprefix : ((s.take 4).takeWhile fun c => (Text.hexValue c).isSome).length
        ≤ (s.take 4).length := (List.takeWhile_prefix _).length_le
    have hfour := List.length_take_le 4 s
    omega
  calc (takeGroup s).2.1 < 16 ^ _ := hsum
    _ ≤ 16 ^ 4 := Nat.pow_le_pow_right (by decide) hshort

theorem lt_of_trailingIpv4 {s : List Char} {groups : List Nat} (h : trailingIpv4 s = some groups) :
    ∀ g ∈ groups, g < 0x10000 := by
  unfold trailingIpv4 at h
  dsimp only at h
  obtain ⟨bytes, hbytes, hgroups⟩ := Option.bind_eq_some_iff.mp h
  have hsmall : ∀ b ∈ bytes, b ≤ 255 := by
    refine forall_of_mapM (fun part b hpart => ?_) hbytes
    split_ifs at hpart with hform hfit
    exact Option.some.inj hpart ▸ hfit
  split at hgroups
  · next a b c d =>
    obtain rfl := Option.some.inj hgroups
    simp at hsmall ⊢
    omega
  · cases hgroups

theorem groups_of_ipv6Groups {fuel : Nat} {before : Option (List Nat)} {groups gs : List Nat}
    {s : List Char} (hbefore : ∀ front ∈ before, ∀ g ∈ front, g < 0x10000)
    (hgroups : ∀ g ∈ groups, g < 0x10000) (h : ipv6Groups fuel before groups s = some gs) :
    Groups gs := by
  induction fuel generalizing before groups s with
  | zero => cases h
  | succ fuel ih =>
    have hmore : ∀ v < 0x10000, ∀ g ∈ groups ++ [v], g < 0x10000 := by
      intro v hv g hg
      rcases List.mem_append.mp hg with hg | hg
      · exact hgroups g hg
      · rw [List.mem_singleton.mp hg]
        exact hv
    have htaken := lt_of_takeGroup s
    unfold ipv6Groups at h
    dsimp only at h
    split at h
    · exact groups_of_finish hbefore hgroups h
    · split_ifs at h
      exact ih (fun front hfront => Option.some.inj hfront ▸ hgroups) (by simp) h
    · split at h
      · cases h
      split at h
      · split_ifs at h
        obtain ⟨tail, htail, hfinish⟩ := Option.bind_eq_some_iff.mp h
        refine groups_of_finish hbefore (fun g hg => ?_) hfinish
        rcases List.mem_append.mp hg with hg | hg
        · exact hgroups g hg
        · exact lt_of_trailingIpv4 htail g hg
      · split_ifs at h
        exact ih hbefore (hmore _ htaken) h
      · exact groups_of_finish hbefore (hmore _ htaken) h
      · cases h

theorem groups_of_parseIpv6 {s : List Char} {gs : List Nat} (h : parseIpv6 s = some gs) :
    Groups gs := by
  have hnone : ∀ front ∈ (none : Option (List Nat)), ∀ g ∈ front, g < 0x10000 := by simp
  have hempty : ∀ front ∈ some ([] : List Nat), ∀ g ∈ front, g < 0x10000 := by simp
  unfold parseIpv6 at h
  split at h
  · exact groups_of_ipv6Groups hempty (by simp) h
  · cases h
  · exact groups_of_ipv6Groups hnone (by simp) h

end Ipv6
end Banter.Url
