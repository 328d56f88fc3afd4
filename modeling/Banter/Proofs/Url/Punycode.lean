import Banter.Proofs.History
import Banter.Url.Punycode
import Mathlib.Data.List.Basic
import Mathlib.Tactic.Ring

/-!
Punycode is read as it was written: each number calls for the character that it was written for, at
the place where this one stands among those that are there already.
-/
namespace Banter.Url.Punycode

section Numbers

theorem threshold_le (k bias : Nat) : threshold k bias ≤ 26 := by
  unfold threshold
  split_ifs <;> omega

theorem digitValue_digitChar : ∀ d < 36, digitValue (digitChar d) = some d := by
  decide

theorem readNumber_writeNumber (bias k weight sum q : Nat) (rest : List Char) :
    readNumber bias k weight sum (writeNumber bias k q ++ rest) = some (sum + q * weight, rest) := by
  induction q using Nat.strongRecOn generalizing k weight sum with
  | ind q ih =>
    have hpos := threshold_pos k bias
    have hle := threshold_le k bias
    unfold writeNumber
    dsimp only
    split_ifs with hlast
    · simp [readNumber, digitValue_digitChar q (by omega), hlast]
    · have hmore := Nat.div_add_mod (q - threshold k bias) (36 - threshold k bias)
      have hmod := Nat.mod_lt (q - threshold k bias) (by omega : 0 < 36 - threshold k bias)
      have hsmaller : (q - threshold k bias) / (36 - threshold k bias) < q :=
        Nat.lt_of_le_of_lt (Nat.div_le_self _ _) (by omega)
      have hrest := ih _ hsmaller (k + 36) (weight * (36 - threshold k bias))
      generalize (q - threshold k bias) / (36 - threshold k bias) = high at *
      generalize (q - threshold k bias) % (36 - threshold k bias) = low at *
      have hvalue : (threshold k bias + low) * weight + high * (weight * (36 - threshold k bias)) =
          q * weight := by
        have hq : q = threshold k bias + low + (36 - threshold k bias) * high := by omega
        rw [hq]
        ring
      have hon : ¬ threshold k bias + low < threshold k bias := by omega
      simp [readNumber, digitValue_digitChar (threshold k bias + low) (by omega), hon, hrest, hvalue,
        Nat.add_assoc]

theorem writeNumber_ne_nil (bias k q : Nat) : writeNumber bias k q ≠ [] := by
  unfold writeNumber
  dsimp only
  split_ifs <;> simp

theorem mem_writeNumber {bias k q : Nat} {c : Char} (h : c ∈ writeNumber bias k q) :
    ∃ d < 36, c = digitChar d := by
  induction q using Nat.strongRecOn generalizing k with
  | ind q ih =>
    have hpos := threshold_pos k bias
    have hle := threshold_le k bias
    unfold writeNumber at h
    dsimp only at h
    split_ifs at h with hlast
    · exact ⟨q, by omega, List.mem_singleton.mp h⟩
    · rcases List.mem_cons.mp h with rfl | h
      · have hmod := Nat.mod_lt (q - threshold k bias) (by omega : 0 < 36 - threshold k bias)
        exact ⟨_, by omega, rfl⟩
      · exact ih _ (Nat.lt_of_le_of_lt (Nat.div_le_self _ _) (by omega)) h

end Numbers

/-- What a reader of numbers knows: the code point and the place that the next number counts from,
the bias, and the characters so far. -/
structure Reader where
  n : Nat
  i : Nat
  bias : Nat
  out : List Nat

def Reader.put (r : Reader) (n place delta : Nat) : Reader :=
  ⟨n, place + 1, adapt delta (r.out.length + 1) (r.i == 0), r.out.take place ++ n :: r.out.drop place⟩

section Reading

variable {accepted? : Nat → Option Nat}

/-- Numbers and what they do to a reader. -/
inductive Reads (accepted? : Nat → Option Nat) (start : Reader) : List Char → Reader → Prop where
  | nothing : Reads accepted? start [] start
  | number {w : List Char} {r : Reader} {n place delta : Nat} (before : Reads accepted? start w r)
      (fits : place ≤ r.out.length) (sum : r.i + delta + r.n * (r.out.length + 1) =
        n * (r.out.length + 1) + place) (accepted : accepted? n = some n) :
      Reads accepted? start (w ++ writeNumber r.bias 36 delta) (r.put n place delta)

theorem insertAll_number {r : Reader} {n place delta fuel : Nat} (fits : place ≤ r.out.length)
    (sum : r.i + delta + r.n * (r.out.length + 1) = n * (r.out.length + 1) + place)
    (accepted : accepted? n = some n) (rest : List Char) :
    insertAll accepted? (fuel + 1) (writeNumber r.bias 36 delta ++ rest) r.n r.i r.bias r.out =
      insertAll accepted? fuel rest n (place + 1) (r.put n place delta).bias
        (r.put n place delta).out := by
  have hsteps : n = r.n + (r.i + delta) / (r.out.length + 1) ∧
      (r.i + delta) % (r.out.length + 1) = place := by
    have hle : r.n ≤ n := by
      by_contra hlt
      have hmore := Nat.mul_le_mul_right (r.out.length + 1) (Nat.lt_of_not_le hlt)
      rw [Nat.succ_mul] at hmore
      omega
    obtain ⟨d, rfl⟩ := Nat.exists_eq_add_of_le hle
    have hsum : r.i + delta = place + d * (r.out.length + 1) := by
      rw [Nat.add_mul] at sum
      omega
    have hplace : place < r.out.length + 1 := Nat.lt_succ_of_le fits
    rw [hsum, Nat.add_mul_div_right _ _ (Nat.succ_pos _), Nat.add_mul_mod_self_right,
      Nat.div_eq_of_lt hplace, Nat.mod_eq_of_lt hplace, Nat.zero_add]
    exact ⟨rfl, rfl⟩
  obtain ⟨c, more, hfirst⟩ := List.exists_cons_of_ne_nil (writeNumber_ne_nil r.bias 36 delta)
  have hread := readNumber_writeNumber r.bias 36 1 0 delta rest
  rw [Nat.zero_add, Nat.mul_one] at hread
  rw [hfirst, List.cons_append] at hread ⊢
  conv_lhs => unfold insertAll
  dsimp only
  rw [hread]
  simp [← hsteps.1, accepted, hsteps.2, Reader.put]

theorem Reads.insertAll_append {start r : Reader} {w : List Char}
    (h : Reads accepted? start w r) {rest : List Char} {fuel : Nat}
    (hfuel : (w ++ rest).length ≤ fuel) :
    ∃ fuel', rest.length ≤ fuel' ∧
      insertAll accepted? fuel (w ++ rest) start.n start.i start.bias start.out =
        insertAll accepted? fuel' rest r.n r.i r.bias r.out := by
  induction h generalizing rest fuel with
  | nothing => exact ⟨fuel, hfuel, rfl⟩
  | @number w r n place delta before fits sum accepted ih =>
    rw [List.append_assoc] at hfuel ⊢
    obtain ⟨fuel', hfuel', hread⟩ := ih hfuel
    have hsome := List.length_pos_iff.mpr (writeNumber_ne_nil r.bias 36 delta)
    rw [List.length_append] at hfuel'
    obtain ⟨fuel', rfl⟩ : ∃ more, fuel' = more + 1 := ⟨fuel' - 1, by omega⟩
    exact ⟨fuel', by omega, hread.trans (insertAll_number fits sum accepted rest)⟩

theorem Reads.insertAll_eq {start r : Reader} {w : List Char} (h : Reads accepted? start w r) :
    insertAll accepted? w.length w start.n start.i start.bias start.out = (r.out, true) := by
  obtain ⟨fuel, -, hread⟩ := h.insertAll_append (Nat.le_refl (w ++ []).length)
  rw [List.append_nil] at hread
  rw [hread]
  cases fuel <;> rfl

theorem Reads.mem {start r : Reader} {w : List Char} (h : Reads accepted? start w r) {c : Char}
    (hc : c ∈ w) : ∃ d < 36, c = digitChar d := by
  induction h with
  | nothing => cases hc
  | number before fits sum accepted ih =>
    rcases List.mem_append.mp hc with hc | hc
    · exact ih hc
    · exact mem_writeNumber hc

end Reading

section Writing

variable {accepted? : Nat → Option Nat} {start : Reader} {basic : Nat} {shown : List Char}

/-- How far a label is written, with characters up to `n` in front and below `n` behind: the reader
knows just these, and what is pending takes it to `n` at this place. -/
structure Pending (accepted? : Nat → Option Nat) (start : Reader) (basic : Nat) (shown : List Char)
    (n : Nat) (front behind : List Nat) (p : Progress) (r : Reader) : Prop where
  written : ∃ w, p.written = shown ++ w ∧ Reads accepted? start w r
  out : r.out = front.filter (· ≤ n) ++ behind.filter (· < n)
  placed : p.placed = r.out.length
  bias : p.bias = r.bias
  delta : r.i + p.delta + r.n * (r.out.length + 1) =
    n * (r.out.length + 1) + (front.filter (· ≤ n)).length
  fresh : r.i = 0 ↔ p.placed = basic
  basic_le : basic ≤ p.placed

theorem Pending.place {n c : Nat} {front behind : List Nat} {p : Progress} {r : Reader}
    (h : Pending accepted? start basic shown n front (c :: behind) p r)
    (hc : c = n → accepted? n = some n) :
    ∃ r', Pending accepted? start basic shown n (front ++ [c]) behind (place basic n p c) r' := by
  obtain ⟨⟨w, hwritten, hreads⟩, hout, hplaced, hbias, hdelta, hfresh, hbasic⟩ := h
  unfold Punycode.place
  -- Below `n` the character is there already, at `n` a number puts it in, above it waits.
  split_ifs with hlt heq
  · refine ⟨r, ⟨w, hwritten, hreads⟩, ?_, hplaced, hbias, ?_, hfresh, hbasic⟩
    · simp [hout, hlt, Nat.le_of_lt hlt]
    · simp [Nat.le_of_lt hlt]
      omega
  · subst heq
    rw [List.filter_cons_of_neg (by simp)] at hout
    have hfits : (front.filter (· ≤ c)).length ≤ r.out.length := by
      rw [hout, List.length_append]
      exact Nat.le_add_right _ _
    have hfirst : (p.placed == basic) = (r.i == 0) := by
      rw [Bool.eq_iff_iff, beq_iff_eq, beq_iff_eq, hfresh]
    refine ⟨r.put c (front.filter (· ≤ c)).length p.delta,
      ⟨w ++ writeNumber r.bias 36 p.delta, ?_, hreads.number hfits hdelta (hc rfl)⟩,
      ?_, ?_, ?_, ?_, ?_, ?_⟩
    · simp [hwritten, hbias]
    · simp [Reader.put, hout]
    · simp [Reader.put, hplaced, hout]
      omega
    · change adapt p.delta (p.placed + 1) (p.placed == basic) =
        adapt p.delta (r.out.length + 1) (r.i == 0)
      rw [hfirst, hplaced]
    · simp [Reader.put]
      omega
    · simp [Reader.put]
      omega
    · exact Nat.le_succ_of_le hbasic
  · refine ⟨r, ⟨w, hwritten, hreads⟩, ?_, hplaced, hbias, ?_, hfresh, hbasic⟩
    · simp [hout, hlt, show ¬ c ≤ n by omega]
    · simpa [show ¬ c ≤ n by omega] using hdelta

theorem Pending.placeEach {n : Nat} {front behind : List Nat} {p : Progress} {r : Reader}
    (h : Pending accepted? start basic shown n front behind p r)
    (haccepted : ∀ c ∈ behind, c = n → accepted? n = some n) :
    ∃ r', Pending accepted? start basic shown n (front ++ behind) []
      (behind.foldl (Punycode.place basic n) p) r' := by
  induction behind generalizing front p r with
  | nil => exact ⟨r, by rwa [List.append_nil]⟩
  | cons c behind ih =>
    obtain ⟨r', h'⟩ := h.place (haccepted c List.mem_cons_self)
    obtain ⟨r'', h''⟩ := ih h' fun d hd => haccepted d (List.mem_cons_of_mem c hd)
    rw [List.append_assoc, List.singleton_append] at h''
    exact ⟨r'', h''⟩

theorem Pending.next {n : Nat} {label : List Nat} {p : Progress} {r : Reader}
    (h : Pending accepted? start basic shown n label [] p r) :
    Pending accepted? start basic shown (n + 1) [] label { p with delta := p.delta + 1 } r := by
  obtain ⟨hwritten, hout, hplaced, hbias, hdelta, hfresh, hbasic⟩ := h
  rw [List.filter_nil, List.append_nil] at hout
  refine ⟨hwritten, ?_, hplaced, hbias, ?_, hfresh, hbasic⟩
  · simpa [Nat.lt_succ_iff] using hout
  · rw [← hout] at hdelta
    simp only [List.filter_nil, List.length_nil]
    rw [Nat.succ_mul]
    omega

theorem Pending.skip {n m : Nat} {label : List Nat} {p : Progress} {r : Reader}
    (h : Pending accepted? start basic shown n [] label p r) (hm : n ≤ m)
    (hnone : ∀ c ∈ label, n ≤ c → m ≤ c) :
    Pending accepted? start basic shown m [] label
      { p with delta := p.delta + (m - n) * (p.placed + 1) } r := by
  obtain ⟨hwritten, hout, hplaced, hbias, hdelta, hfresh, hbasic⟩ := h
  refine ⟨hwritten, ?_, hplaced, hbias, ?_, hfresh, hbasic⟩
  · rw [hout]
    refine congrArg _ (List.filter_congr fun c hc => ?_)
    have hc' := hnone c hc
    rw [decide_eq_decide]
    omega
  · obtain ⟨d, rfl⟩ := Nat.exists_eq_add_of_le hm
    simp only [List.filter_nil, List.length_nil] at hdelta ⊢
    rw [Nat.add_sub_cancel_left, hplaced, Nat.add_mul]
    omega

theorem Pending.placeAll {label others : List Nat} {previous : Nat} {p : Progress} {r : Reader}
    (h : Pending accepted? start basic shown previous [] label p r)
    (hsorted : others.Pairwise (· < ·)) (hothers : ∀ n ∈ others, previous ≤ n)
    (hall : ∀ c ∈ label, previous ≤ c → c ∈ others)
    (haccepted : ∀ c ∈ label, previous ≤ c → accepted? c = some c) :
    ∃ w r', (Punycode.placeAll label basic others previous p).written = shown ++ w ∧
      Reads accepted? start w r' ∧ r'.out = label := by
  induction others generalizing previous p r with
  | nil =>
    obtain ⟨⟨w, hwritten, hreads⟩, hout, -⟩ := h
    refine ⟨w, r, hwritten, hreads, ?_⟩
    rw [hout, List.filter_nil, List.nil_append, List.filter_eq_self]
    intro c hc
    have hsmall : ¬ previous ≤ c := fun hle => List.not_mem_nil (hall c hc hle)
    exact decide_eq_true (Nat.lt_of_not_le hsmall)
  | cons n rest ih =>
    obtain ⟨hfirst, hrest⟩ := List.pairwise_cons.mp hsorted
    have hn : previous ≤ n := hothers n List.mem_cons_self
    have hnone : ∀ c ∈ label, previous ≤ c → n ≤ c := by
      intro c hc hle
      rcases List.mem_cons.mp (hall c hc hle) with rfl | hlater
      · exact Nat.le_refl _
      · exact Nat.le_of_lt (hfirst c hlater)
    have hreached := h.skip hn hnone
    obtain ⟨r', hplaced⟩ := hreached.placeEach fun c hc heq => heq ▸ haccepted c hc (heq ▸ hn)
    rw [List.nil_append] at hplaced
    refine ih hplaced.next hrest (fun m hm => hfirst m hm) (fun c hc hle => ?_) fun c hc hle => ?_
    · have hmem := hall c hc (by omega)
      exact (List.mem_cons.mp hmem).resolve_left (by omega)
    · exact haccepted c hc (by omega)

end Writing

section Label

variable (label : List Char)

def basicPart : List Char :=
  label.filter (·.toNat < 0x80)

/-- A label is written as its basic characters, a hyphen behind them, and numbers. -/
theorem encode_eq :
    ∃ w r, encode label =
        (if (basicPart label).isEmpty then [] else basicPart label ++ ['-']) ++ w ∧
      Reads (fun n => if n.isValidChar then some n else none)
        ⟨0x80, 0, 72, (basicPart label).map Char.toNat⟩ w r ∧ r.out = label.map Char.toNat := by
  have hpending : Pending (fun n => if n.isValidChar then some n else none)
      ⟨0x80, 0, 72, (basicPart label).map Char.toNat⟩ (basicPart label).length
      (if (basicPart label).isEmpty then [] else basicPart label ++ ['-']) 0x80 []
      (label.map Char.toNat)
      ⟨if (basicPart label).isEmpty then [] else basicPart label ++ ['-'], 0, 72,
        (basicPart label).length⟩
      ⟨0x80, 0, 72, (basicPart label).map Char.toNat⟩ := by
    refine ⟨⟨[], (List.append_nil _).symm, .nothing⟩, ?_, by simp, rfl, by simp, by simp,
      Nat.le_refl _⟩
    rw [List.filter_nil, List.nil_append, List.filter_map]
    rfl
  have hmem : ∀ n, n ∈ (((label.map Char.toNat).filter (0x80 ≤ ·)).eraseDups.mergeSort (· ≤ ·)) ↔
      n ∈ label.map Char.toNat ∧ 0x80 ≤ n := by
    simp [List.mem_mergeSort, List.mem_eraseDups]
  apply hpending.placeAll
  · have hordered : (((label.map Char.toNat).filter (0x80 ≤ ·)).eraseDups.mergeSort (· ≤ ·)).Pairwise
        fun a b => decide (a ≤ b) = true := by
      apply List.pairwise_mergeSort
      · simpa using fun a b c => Nat.le_trans
      · simpa using Nat.le_total
    have honce := (List.mergeSort_perm ((label.map Char.toNat).filter (0x80 ≤ ·)).eraseDups
      (fun a b => decide (a ≤ b))).nodup_iff.mpr (nodup_eraseDups _)
    exact (hordered.and honce).imp fun h => Nat.lt_of_le_of_ne (of_decide_eq_true h.1) h.2
  · exact fun n hn => ((hmem n).mp hn).2
  · exact fun c hc hle => (hmem c).mpr ⟨hc, hle⟩
  · intro n hn _
    obtain ⟨c, -, rfl⟩ := List.mem_map.mp hn
    exact if_pos c.valid

theorem digitChar_ne_hyphen : ∀ d < 36, digitChar d ≠ '-' := by
  decide

theorem mem_encode {c : Char} (h : c ∈ encode label) :
    (c ∈ label ∧ c.toNat < 0x80) ∨ c = '-' ∨ ∃ d < 36, c = digitChar d := by
  obtain ⟨w, r, hencode, hreads, -⟩ := encode_eq label
  rw [hencode] at h
  rcases List.mem_append.mp h with h | h
  · split_ifs at h
    · cases h
    · rcases List.mem_append.mp h with h | h
      · obtain ⟨hlabel, hbasic⟩ := List.mem_filter.mp h
        exact .inl ⟨hlabel, of_decide_eq_true hbasic⟩
      · exact .inr (.inl (List.mem_singleton.mp h))
  · exact .inr (.inr (hreads.mem h))

/-- The last hyphen parts the basic characters from the numbers. -/
theorem decode_encode : decode? (encode label) = some label := by
  obtain ⟨w, r, hencode, hreads, hout⟩ := encode_eq label
  have hopen : ∀ c ∈ w.reverse, decide (c ≠ '-') = true := by
    intro c hc
    obtain ⟨d, hd, rfl⟩ := hreads.mem (List.mem_reverse.mp hc)
    exact decide_eq_true (digitChar_ne_hyphen d hd)
  have htail : ((encode label).reverse.takeWhile (· ≠ '-')).reverse = w := by
    rw [hencode]
    split_ifs
    · rw [List.nil_append, List.takeWhile_eq_self_iff.mpr hopen, List.reverse_reverse]
    · rw [List.reverse_append, List.reverse_append, List.takeWhile_append_of_pos hopen,
        List.reverse_singleton, List.singleton_append, List.takeWhile_cons_of_neg (by simp),
        List.append_nil, List.reverse_reverse]
  have hbasic : (encode label).take ((encode label).length - w.length - 1) = basicPart label := by
    rw [hencode]
    split_ifs with hnone
    · simp [List.isEmpty_iff.mp hnone]
    · have hlength : (basicPart label ++ ['-'] ++ w).length - w.length - 1 =
          (basicPart label).length := by
        simp only [List.length_append, List.length_singleton]
        omega
      rw [hlength, List.append_assoc, List.take_left]
  have hread := hreads.insertAll_eq
  rw [hout] at hread
  have hback : (label.map Char.toNat).map Char.ofNat = label := by
    simp [Function.comp_def]
  unfold decode? insertFrom
  dsimp only
  rw [htail, hbasic, hread]
  exact congrArg some hback

end Label

end Banter.Url.Punycode
