import Banter.Proofs.Json.Spelling

/-! Reading JSON takes just the texts that spell a value, up to integers that are too long. -/
namespace Banter.Json

open Banter.Text (CodePoint hexValue4)

@[simp] theorem ok_bind {ε α β : Type} (a : α) (f : α → Except ε β) :
    (Except.ok a >>= f) = f a := rfl

theorem Quoted.exists_cons {cs : List CodePoint} {t : List Char} (h : Quoted cs t) :
    ∃ c u, t = c :: u := by
  cases h <;> exact ⟨_, _, rfl⟩

theorem scanString_append {cs : List CodePoint} {t : List Char} (opening rest : List Char)
    (h : Quoted cs t) : scanString opening (t ++ rest) = .ok (cs, rest) := by
  induction h with
  | close =>
    rw [List.singleton_append, scanString.eq_def]
    rfl
  | plain hq hb hc _ ih =>
    rw [List.cons_append, scanString.eq_def]
    simp only [if_neg hq, if_neg hb, if_neg (Nat.not_lt.mpr hc), ih]
    rfl
  | @escape _ _ e x he _ ih =>
    have hu : e ≠ 'u' := by
      rintro rfl
      cases he
    rw [List.cons_append, List.cons_append, scanString.eq_def]
    simp only [if_neg (show '\x5c' ≠ '\x22' by decide), if_true, he, ih]
    rfl
  | unit hn hq ih =>
    obtain ⟨e, tail, rfl⟩ := hq.exists_cons
    simp only [List.cons_append] at ih ⊢
    rw [scanString.eq_def]
    simp only [if_neg (show '\x5c' ≠ '\x22' by decide), if_true, hn, ih]
    rfl

theorem afterLiteral_sound {w : String} {s rest : List Char}
    (h : afterLiteral w s = some rest) : s = w.toList ++ rest := by
  unfold afterLiteral at h
  split_ifs at h with hp
  obtain ⟨t, rfl⟩ := List.isPrefixOf_iff_prefix.mp hp
  cases h
  simp [← String.length_toList]

theorem scanLiteral_sound {s rest : List Char} {v : Value} (h : scanLiteral s = some (v, rest)) :
    ∃ w, (w, v) ∈ literals ∧ s = String.toList w ++ rest := by
  obtain ⟨⟨w, v'⟩, hm, hw⟩ := List.exists_of_findSome?_eq_some h
  obtain ⟨after, ha, he⟩ := Option.map_eq_some_iff.mp hw
  cases he
  exact ⟨w, hm, afterLiteral_sound ha⟩

theorem scanLiteral_append {w : String} {v : Value} (rest : List Char) (h : (w, v) ∈ literals) :
    scanLiteral (w.toList ++ rest) = some (v, rest) := by
  simp only [literals, List.mem_cons, List.not_mem_nil, or_false, Prod.mk.injEq] at h
  obtain ⟨rfl, rfl⟩ | ⟨rfl, rfl⟩ | ⟨rfl, rfl⟩ | ⟨rfl, rfl⟩ | ⟨rfl, rfl⟩ | ⟨rfl, rfl⟩ := h <;> rfl

theorem scanLiteral_eq_none {s : List Char}
    (h : ∀ w v, (w, v) ∈ literals → ∀ rest, s ≠ String.toList w ++ rest) :
    scanLiteral s = none := by
  cases hs : scanLiteral s with
  | none => rfl
  | some found =>
    obtain ⟨w, hm, hw⟩ := scanLiteral_sound hs
    exact absurd hw (h w _ hm _)

theorem scanLiteral_digit {c : Char} (s : List Char) (hc : c.isDigit = true) :
    scanLiteral (c :: s) = none ∧ scanLiteral ('-' :: c :: s) = none := by
  constructor
  · refine scanLiteral_eq_none fun w v hm rest hw => ?_
    obtain ⟨d, u, hd, hhead⟩ := exists_wordHead hm
    rw [hd, List.cons_append] at hw
    obtain ⟨rfl, -⟩ := List.cons.inj hw
    exact absurd hc (by simp [hhead.digit])
  · refine scanLiteral_eq_none fun w v hm rest hw => ?_
    obtain ⟨d, u, hd, hhead⟩ := exists_wordHead hm
    rw [hd, List.cons_append] at hw
    obtain ⟨hsign, htail⟩ := List.cons.inj hw
    obtain ⟨e, t, rfl, he⟩ := hhead.sign hsign.symm
    obtain ⟨rfl, -⟩ := List.cons.inj htail
    exact absurd hc (by simp [he])

theorem terse_nil : Terse [] := by
  refine ⟨(fun _ _ h => by cases h), ?_, ?_⟩
  · intro fs ft rest _ h
    exact (List.append_eq_nil_iff.mp h.symm).1
  · intro e et rest _ h
    exact (List.append_eq_nil_iff.mp h.symm).1

theorem terse_cons {c : Char} (s : List Char) (hd : c.isDigit = false) (hp : c ≠ '.')
    (he : c ≠ 'e') (hE : c ≠ 'E') : Terse (c :: s) := by
  refine ⟨?_, ?_, ?_⟩
  · rintro x rest h
    cases h
    exact hd
  · intro fs ft rest hf h
    cases hf with
    | absent => rfl
    | point =>
      cases h
      exact absurd rfl hp
  · intro e et rest hx h
    cases hx with
    | absent => rfl
    | bare hm | plus hm | minus hm =>
      cases h
      exact absurd hm (by simp [he, hE])

/-- What ends an item: a comma, a closing bracket or brace, or the end of the text. -/
def Ends (s : List Char) : Prop :=
  ∀ c rest, s = c :: rest → c = ',' ∨ c = ']' ∨ c = '\x7d'

theorem ends_cons {c : Char} (s : List Char) (hc : c = ',' ∨ c = ']' ∨ c = '\x7d') :
    Ends (c :: s) := by
  intro x rest h
  cases h
  exact hc

theorem Ends.terse {b s : List Char} (h : Ends s) (hb : Blank b) : Terse (b ++ s) := by
  cases b with
  | cons c b =>
    have hc : isSpace c = true := hb c List.mem_cons_self
    simp only [isSpace, Bool.or_eq_true, beq_iff_eq] at hc
    obtain ((rfl | rfl) | rfl) | rfl := hc <;>
      exact terse_cons _ rfl (by decide) (by decide) (by decide)
  | nil =>
    cases s with
    | nil => exact terse_nil
    | cons c s =>
      obtain rfl | rfl | rfl := h c s rfl <;>
        exact terse_cons _ rfl (by decide) (by decide) (by decide)

theorem Ends.skipSpace {s : List Char} (h : Ends s) : skipSpace s = s := by
  cases s with
  | nil => rfl
  | cons c s => obtain rfl | rfl | rfl := h c s rfl <;> rfl

theorem scanValue_other {c : Char} (fuel : Nat) (s : List Char) (hq : c ≠ '\x22') (ha : c ≠ '[')
    (ho : c ≠ '\x7b') : scanValue (fuel + 1) (c :: s) =
      match scanLiteral (c :: s) with
      | some found => .ok found
      | none => scanNumber (c :: s) := by
  rw [scanValue.eq_def]
  dsimp only
  split
  · next heq =>
    cases heq
    exact absurd rfl hq
  · next heq =>
    cases heq
    exact absurd rfl ha
  · next heq =>
    cases heq
    exact absurd rfl ho
  · rfl

/-- What is read of a field list behind its first field. -/
def afterField (fuel : Nat) (f : List CodePoint × Value) (s : List Char) :
    Except Fault (List (List CodePoint × Value) × List Char) :=
  match s with
  | '\x7d' :: rest => .ok ([f], rest)
  | ',' :: rest => do
    let (fields, after) ← scanFields fuel (skipSpace rest)
    return (f :: fields, after)
  | other => .error (.malformed .expectingComma other.length)

/-- A spelling is read as what it spells, if the count lasts and nothing behind goes on with it. -/
def Part.Reads : Part → List Char → Prop
  | .value v, t => ∀ fuel rest, 2 * t.length ≤ fuel → Terse rest →
    scanValue fuel (t ++ rest) = .ok (v, rest)
  | .item v, t => ∀ fuel rest, 2 * t.length ≤ fuel → Ends rest →
    ∃ after, scanValue fuel (skipSpace (t ++ rest)) = .ok (v, after) ∧ skipSpace after = rest
  | .items vs, t => ∀ fuel rest, 2 * t.length + 1 ≤ fuel →
    scanItems fuel (skipSpace (t ++ ']' :: rest)) = .ok (vs, rest)
  | .field f, t => ∀ fuel rest, 2 * t.length ≤ fuel → Ends rest →
    scanFields (fuel + 1) (skipSpace (t ++ rest)) = afterField fuel f rest
  | .fields fs, t => ∀ fuel rest, 2 * t.length + 1 ≤ fuel →
    scanFields fuel (skipSpace (t ++ '\x7d' :: rest)) = .ok (fs, rest)

theorem isDigit_ne {c : Char} (hc : c.isDigit = true) :
    c ≠ '\x22' ∧ c ≠ '[' ∧ c ≠ '\x7b' ∧ c ≠ '-' := by
  refine ⟨?_, ?_, ?_, ?_⟩ <;>
  · rintro rfl
    cases hc

theorem scanValue_unsigned {t : List Char} (fuel : Nat) (rest : List Char)
    (ht : ∃ c u, t = c :: u ∧ c.isDigit = true) :
    scanValue (fuel + 1) (t ++ rest) = scanUnsigned (t ++ rest) false (t ++ rest) := by
  obtain ⟨c, u, rfl, hc⟩ := ht
  obtain ⟨hq, ha, ho, hm⟩ := isDigit_ne hc
  rw [List.cons_append, scanValue_other fuel _ hq ha ho, (scanLiteral_digit (u ++ rest) hc).1]
  simp only [scanNumber]
  split
  · next heq =>
    cases heq
    exact absurd rfl hm
  · rfl

theorem scanValue_negative {t : List Char} (fuel : Nat) (rest : List Char)
    (ht : ∃ c u, t = c :: u ∧ c.isDigit = true) :
    scanValue (fuel + 1) ('-' :: (t ++ rest)) =
      scanUnsigned ('-' :: (t ++ rest)) true (t ++ rest) := by
  obtain ⟨c, u, rfl, hc⟩ := ht
  rw [List.cons_append, scanValue_other fuel _ (by decide) (by decide) (by decide),
    (scanLiteral_digit (u ++ rest) hc).2]
  rfl

theorem scanValue_items {s : List Char} (fuel : Nat) (h : Opening s) :
    scanValue (fuel + 1) ('[' :: s) =
      (scanItems fuel (skipSpace s)).map fun (vs, after) => (.arr vs, after) := by
  obtain ⟨c, u, hs, hc⟩ := h.skipSpace
  rw [scanValue, hs]
  split
  · next heq =>
    cases heq
    exact absurd rfl hc.bracket
  · cases scanItems fuel (c :: u) <;> rfl

theorem scanValue_fields {s : List Char} (fuel : Nat) (h : Opening s) :
    scanValue (fuel + 1) ('\x7b' :: s) =
      (scanFields fuel (skipSpace s)).map fun (fs, after) => (.obj (assignAll fs), after) := by
  obtain ⟨c, u, hs, hc⟩ := h.skipSpace
  rw [scanValue, hs]
  split
  · next heq =>
    cases heq
    exact absurd rfl hc.brace
  · cases scanFields fuel (c :: u) <;> rfl

theorem scanValue_word {w : String} {v : Value} (fuel : Nat) (rest : List Char)
    (h : (w, v) ∈ literals) : scanValue (fuel + 1) (w.toList ++ rest) = .ok (v, rest) := by
  have hlit := scanLiteral_append rest h
  obtain ⟨c, u, hw, hhead⟩ := exists_wordHead h
  rw [hw, List.cons_append] at hlit ⊢
  rw [scanValue_other fuel _ hhead.quote hhead.bracket hhead.brace, hlit]

/-- Behind its key and the colon a field goes on with an item. -/
theorem scanFields_key {key : List CodePoint} {a k b : List Char} (fuel : Nat) (s : List Char)
    (ha : Blank a) (hk : Quoted key k) (hb : Blank b) :
    scanFields (fuel + 1) (skipSpace (a ++ '\x22' :: (k ++ (b ++ ':' :: s)))) = (do
      let (value, after) ← scanValue fuel (skipSpace s)
      afterField fuel (CodePoint.joinHalves key, value) (skipSpace after)) := by
  rw [skipSpace_append ha, skipSpace_cons rfl, scanFields, scanString_append _ _ hk, ok_bind]
  dsimp only
  rw [skipSpace_append hb, skipSpace_cons rfl]
  rfl

theorem Part.Reads.moreItems {v : Value} {t : List Char} (h : Part.Reads (.item v) t) {fuel : Nat}
    (s : List Char) (hfuel : 2 * t.length ≤ fuel) :
    scanItems (fuel + 1) (skipSpace (t ++ ',' :: s)) =
      (scanItems fuel (skipSpace s)).map fun (vs, after) => (v :: vs, after) := by
  obtain ⟨after, hvalue, hafter⟩ := h fuel (',' :: s) hfuel (ends_cons s (.inl rfl))
  rw [scanItems, hvalue]
  simp only [ok_bind, hafter]
  cases scanItems fuel (skipSpace s) <;> rfl

theorem Part.Reads.moreFields {f : List CodePoint × Value} {t : List Char}
    (h : Part.Reads (.field f) t) {fuel : Nat} (s : List Char) (hfuel : 2 * t.length ≤ fuel) :
    scanFields (fuel + 1) (skipSpace (t ++ ',' :: s)) =
      (scanFields fuel (skipSpace s)).map fun (fs, after) => (f :: fs, after) := by
  rw [h fuel (',' :: s) hfuel (ends_cons s (.inl rfl)), afterField]
  cases scanFields fuel (skipSpace s) <;> rfl

/-- A value has a character, so the count lasts for a call at least. -/
theorem reads_value {v : Value} {t : List Char} (hne : t ≠ [])
    (h : ∀ fuel rest, 2 * t.length ≤ fuel + 1 → Terse rest →
      scanValue (fuel + 1) (t ++ rest) = .ok (v, rest)) : Part.Reads (.value v) t := by
  intro fuel rest hfuel hr
  have hlength := List.length_pos_iff.mpr hne
  obtain ⟨fuel, rfl⟩ : ∃ n, fuel = n + 1 := ⟨fuel - 1, by omega⟩
  exact h fuel rest hfuel hr

theorem reads_items {vs : List Value} {t : List Char}
    (h : ∀ fuel rest, 2 * t.length ≤ fuel →
      scanItems (fuel + 1) (skipSpace (t ++ ']' :: rest)) = .ok (vs, rest)) :
    Part.Reads (.items vs) t := by
  intro fuel rest hfuel
  obtain ⟨fuel, rfl⟩ : ∃ n, fuel = n + 1 := ⟨fuel - 1, by omega⟩
  exact h fuel rest (by omega)

theorem reads_fields {fs : List (List CodePoint × Value)} {t : List Char}
    (h : ∀ fuel rest, 2 * t.length ≤ fuel →
      scanFields (fuel + 1) (skipSpace (t ++ '\x7d' :: rest)) = .ok (fs, rest)) :
    Part.Reads (.fields fs) t := by
  intro fuel rest hfuel
  obtain ⟨fuel, rfl⟩ : ∃ n, fuel = n + 1 := ⟨fuel - 1, by omega⟩
  exact h fuel rest (by omega)

theorem Spells.reads {p : Part} {t : List Char} (h : Spells p t) : p.Reads t := by
  -- A part inside another is shorter, so the count lasts for it too.
  induction h with
  | word h =>
    obtain ⟨c, u, hw, -⟩ := (Spells.word h).value_head
    exact reads_value (by simp [hw]) fun fuel rest _ _ => scanValue_word fuel rest h
  | @unsigned v t h =>
    obtain ⟨c, u, ht, -⟩ := h.head
    refine reads_value (by simp [ht]) fun fuel rest _ hr => ?_
    rw [scanValue_unsigned fuel rest h.head, scanUnsigned_append _ h hr]
  | @negative v t h =>
    refine reads_value (List.cons_ne_nil _ _) fun fuel rest _ hr => ?_
    rw [List.cons_append, scanValue_negative fuel rest h.head, scanUnsigned_append _ h hr]
  | string h =>
    refine reads_value (List.cons_ne_nil _ _) fun fuel rest _ _ => ?_
    rw [List.cons_append, scanValue, scanString_append _ rest h]
    rfl
  | noItems ha | noFields ha =>
    refine reads_value (List.cons_ne_nil _ _) fun fuel rest _ _ => ?_
    rw [List.cons_append, List.append_assoc, List.singleton_append, scanValue,
      skipSpace_append ha]
    rfl
  | array h ih =>
    refine reads_value (List.cons_ne_nil _ _) fun fuel rest hfuel _ => ?_
    have hitems := ih fuel rest (by simp at hfuel; omega)
    rw [List.cons_append, List.append_assoc, List.singleton_append,
      scanValue_items fuel (h.head.append _), hitems]
    rfl
  | object h ih =>
    refine reads_value (List.cons_ne_nil _ _) fun fuel rest hfuel _ => ?_
    have hfields := ih fuel rest (by simp at hfuel; omega)
    rw [List.cons_append, List.append_assoc, List.singleton_append,
      scanValue_fields fuel (h.head.append _), hfields]
    rfl
  | @item v a t b ha h hb ih =>
    intro fuel rest hfuel hr
    have hvalue := ih fuel (b ++ rest) (by simp at hfuel; omega) (hr.terse hb)
    have hskip : skipSpace (a ++ (t ++ b) ++ rest) = t ++ (b ++ rest) := by
      obtain ⟨c, u, rfl, hc⟩ := h.value_head
      rw [List.append_assoc, List.append_assoc, skipSpace_append ha, List.cons_append,
        skipSpace_cons hc.space]
    refine ⟨b ++ rest, ?_, ?_⟩
    · rw [hskip]
      exact hvalue
    · rw [skipSpace_append hb, hr.skipSpace]
  | lastItem h ih =>
    refine reads_items fun fuel rest hfuel => ?_
    obtain ⟨after, hvalue, hafter⟩ := ih fuel (']' :: rest) hfuel
      (ends_cons rest (.inr (.inl rfl)))
    rw [scanItems, hvalue]
    simp only [ok_bind, hafter]
    rfl
  | @moreItems v vs t u h hs ih ihs =>
    refine reads_items fun fuel rest hfuel => ?_
    rw [List.length_append, List.length_cons] at hfuel
    have hitems := ihs fuel rest (by omega)
    rw [List.append_assoc, List.cons_append, ih.moreItems _ (by omega), hitems]
    rfl
  | @field key v a k b t ha hk hb h ih =>
    intro fuel rest hfuel hr
    obtain ⟨after, hvalue, hafter⟩ := ih fuel rest (by simp at hfuel; omega) hr
    simp only [List.append_assoc, List.cons_append]
    rw [scanFields_key fuel _ ha hk hb, hvalue, ok_bind]
    exact congrArg (afterField fuel _) hafter
  | lastField h ih =>
    refine reads_fields fun fuel rest hfuel => ?_
    rw [ih fuel ('\x7d' :: rest) hfuel (ends_cons rest (.inr (.inr rfl)))]
    rfl
  | @moreFields f fs t u h hs ih ihs =>
    refine reads_fields fun fuel rest hfuel => ?_
    rw [List.length_append, List.length_cons] at hfuel
    have hfields := ihs fuel rest (by omega)
    rw [List.append_assoc, List.cons_append, ih.moreFields _ (by omega), hfields]
    rfl

end Banter.Json
