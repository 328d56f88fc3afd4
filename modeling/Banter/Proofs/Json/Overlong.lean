import Banter.Proofs.Json.Reading

/-! Apart from spelling, an integer that is too long is all that keeps a text from being read. -/
namespace Banter.Json

open Banter.Text (CodePoint)

/-- A result that is what the text spells, or an integer that is too long and there. -/
def Accounted {α : Type} (spelled : α → List Char → Prop) (overlong : Nat → Prop) :
    Except Fault (α × List Char) → Prop
  | .ok (a, rest) => spelled a rest
  | .error (.digits n) => overlong n
  | .error (.malformed _ _) => True

theorem Accounted.bind {α β : Type} {P : α → List Char → Prop} {Q : β → List Char → Prop}
    {O O' : Nat → Prop} {r : Except Fault (α × List Char)}
    {f : α × List Char → Except Fault (β × List Char)} (h : Accounted P O r)
    (hf : ∀ a rest, P a rest → Accounted Q O' (f (a, rest))) (ho : ∀ n, O n → O' n) :
    Accounted Q O' (r >>= f) := by
  cases r with
  | ok found => exact hf found.1 found.2 h
  | error fault =>
    cases fault with
    | malformed flaw left => trivial
    | digits n => exact ho n h

def ValueAccounted (fuel : Nat) : Prop :=
  ∀ s, Accounted (fun v rest => ∃ t, s = t ++ rest ∧ Spells (.value v) t) (Overlong · .value s)
    (scanValue fuel s)

def ItemsAccounted (fuel : Nat) : Prop :=
  ∀ s, Accounted (fun vs rest => ∃ t, s = t ++ ']' :: rest ∧ Spells (.items vs) t)
    (Overlong · .items s) (scanItems fuel (skipSpace s))

def FieldsAccounted (fuel : Nat) : Prop :=
  ∀ s, Accounted (fun fs rest => ∃ t, s = t ++ '\x7d' :: rest ∧ Spells (.fields fs) t)
    (Overlong · .fields s) (scanFields fuel (skipSpace s))

theorem ValueAccounted.item {fuel : Nat} (h : ValueAccounted fuel) (s : List Char) :
    Accounted (fun v after => ∃ t, s = t ++ skipSpace after ∧ Spells (.item v) t)
      (Overlong · .item s) (scanValue fuel (skipSpace s)) := by
  obtain ⟨a, ha, hs⟩ := exists_blank s
  have hvalue := h (skipSpace s)
  cases hr : scanValue fuel (skipSpace s) with
  | ok found =>
    obtain ⟨v, after⟩ := found
    rw [hr] at hvalue
    obtain ⟨t, ht, hv⟩ := hvalue
    obtain ⟨b, hb, hafter⟩ := exists_blank after
    refine ⟨a ++ (t ++ b), ?_, .item ha hv hb⟩
    rw [hs, ht, List.append_assoc, List.append_assoc, ← hafter]
  | error fault =>
    cases fault with
    | malformed flaw left => trivial
    | digits n =>
      rw [hr] at hvalue
      have hitem : Overlong n .item (a ++ skipSpace s) := .item ha hvalue
      rw [← hs] at hitem
      exact hitem

theorem scanNumber_accounted (s : List Char) :
    Accounted (fun v rest => ∃ t, s = t ++ rest ∧ Spells (.value v) t) (Overlong · .value s)
      (scanNumber s) := by
  unfold scanNumber
  split
  · next u =>
    obtain ⟨flaw, left, h⟩ | ⟨t, rest, v, rfl, hv, h⟩ | ⟨ds, rest, rfl, hw, hl, ht, h⟩ :=
      scanUnsigned_cases ('-' :: u) true u
    · rw [h]
      trivial
    · rw [h]
      exact ⟨'-' :: t, rfl, .negative hv⟩
    · rw [h]
      exact .negative hw rfl hl ht
  · obtain ⟨flaw, left, h⟩ | ⟨t, rest, v, rfl, hv, h⟩ | ⟨ds, rest, rfl, hw, hl, ht, h⟩ :=
      scanUnsigned_cases s false s
    · rw [h]
      trivial
    · rw [h]
      exact ⟨t, rfl, .unsigned hv⟩
    · rw [h]
      exact .unsigned hw rfl hl ht

theorem ItemsAccounted.succ {fuel : Nat} (hv : ValueAccounted fuel) (hi : ItemsAccounted fuel) :
    ItemsAccounted (fuel + 1) := by
  intro s
  rw [scanItems]
  refine (hv.item s).bind ?_ fun n => .thisItem
  rintro v after ⟨t, rfl, ht⟩
  dsimp only
  split
  · next rest heq =>
    rw [heq]
    exact ⟨t, rfl, .lastItem ht⟩
  · next rest heq =>
    rw [heq]
    refine (hi rest).bind ?_ fun n hn => .laterItem ht hn
    rintro vs after' ⟨u, rfl, hu⟩
    exact ⟨t ++ ',' :: u, by simp, .moreItems ht hu⟩
  · trivial

theorem scanString_accounted (opening s : List Char) :
    Accounted (fun cs rest => ∃ t, s = t ++ rest ∧ Quoted cs t) (fun _ => False)
      (scanString opening s) := by
  induction hlen : s.length using Nat.strong_induction_on generalizing s with
  | _ len ih =>
    subst len
    rw [scanString.eq_def]
    dsimp only
    split
    · trivial
    · next c s =>
      split_ifs with hq hb hc
      · exact ⟨['\x22'], by rw [hq]; rfl, .close⟩
      · subst hb
        split
        · trivial
        · split
          · next a b c d e tail =>
            split
            · next n hn =>
              refine (ih (e :: tail).length (by simp only [List.length_cons]; omega) _ rfl).bind
                ?_ fun _ h => h
              rintro cs rest ⟨t, ht, hquoted⟩
              exact ⟨'\x5c' :: 'u' :: a :: b :: c :: d :: t, by rw [ht]; rfl, .unit hn hquoted⟩
            · trivial
          · trivial
        · next e more _ =>
          split
          · next x he =>
            refine (ih more.length (by simp only [List.length_cons]; omega) _ rfl).bind
              ?_ fun _ h => h
            rintro cs rest ⟨t, rfl, hquoted⟩
            exact ⟨'\x5c' :: e :: t, rfl, .escape he hquoted⟩
          · trivial
      · trivial
      · refine (ih s.length (by simp only [List.length_cons]; omega) _ rfl).bind ?_ fun _ h => h
        rintro cs rest ⟨t, rfl, hquoted⟩
        exact ⟨c :: t, rfl, .plain hq hb (Nat.not_lt.mp hc) hquoted⟩

theorem FieldsAccounted.succ {fuel : Nat} (hv : ValueAccounted fuel) (hf : FieldsAccounted fuel) :
    FieldsAccounted (fuel + 1) := by
  intro s
  obtain ⟨a, ha, hs⟩ := exists_blank s
  rw [scanFields.eq_def]
  dsimp only
  split
  · next quoted heq =>
    rw [heq] at hs
    refine (scanString_accounted _ quoted).bind ?_ fun _ hn => hn.elim
    rintro key afterKey ⟨k, rfl, hk⟩
    obtain ⟨b, hb, hafter⟩ := exists_blank afterKey
    dsimp only
    split
    · next rest hcolon =>
      rw [hcolon] at hafter
      rw [hafter] at hs
      refine (hv.item rest).bind ?_ ?_
      · rintro v after ⟨t, rfl, ht⟩
        have hfield := Spells.field ha hk hb ht
        dsimp only
        split
        · next rest hclose =>
          rw [hclose] at hs
          exact ⟨_, by rw [hs]; simp, .lastField hfield⟩
        · next rest hcomma =>
          rw [hcomma] at hs
          have hsplit : s = (a ++ '\x22' :: (k ++ (b ++ ':' :: t))) ++ ',' :: rest := by
            rw [hs]
            simp
          refine (hf rest).bind ?_ ?_
          · rintro fs after' ⟨u, rfl, hu⟩
            exact ⟨_, by rw [hsplit]; simp, .moreFields hfield hu⟩
          · intro n hn
            rw [hsplit]
            exact .laterField hfield hn
        · trivial
      · intro n hn
        rw [hs]
        exact .thisField (.field ha hk hb hn)
    · trivial
  · trivial

theorem ValueAccounted.succ {fuel : Nat} (hi : ItemsAccounted fuel) (hf : FieldsAccounted fuel) :
    ValueAccounted (fuel + 1) := by
  intro s
  rw [scanValue.eq_def]
  dsimp only
  split
  · next rest =>
    refine (scanString_accounted _ rest).bind ?_ fun _ hn => hn.elim
    rintro cs after ⟨t, rfl, ht⟩
    exact ⟨'\x22' :: t, rfl, .string ht⟩
  · next rest =>
    split
    · next after heq =>
      obtain ⟨a, ha, hs⟩ := exists_blank rest
      rw [heq] at hs
      exact ⟨'[' :: (a ++ [']']), by rw [hs]; simp, .noItems ha⟩
    · refine (hi rest).bind ?_ fun n hn => .array hn
      rintro vs after ⟨t, rfl, ht⟩
      exact ⟨'[' :: (t ++ [']']), by simp, .array ht⟩
  · next rest =>
    split
    · next after heq =>
      obtain ⟨a, ha, hs⟩ := exists_blank rest
      rw [heq] at hs
      exact ⟨'\x7b' :: (a ++ ['\x7d']), by rw [hs]; simp, .noFields ha⟩
    · refine (hf rest).bind ?_ fun n hn => .object hn
      rintro fs after ⟨t, rfl, ht⟩
      exact ⟨'\x7b' :: (t ++ ['\x7d']), by simp, .object ht⟩
  · cases hl : scanLiteral s with
    | some found =>
      obtain ⟨v, rest⟩ := found
      obtain ⟨w, hm, rfl⟩ := scanLiteral_sound hl
      exact ⟨w.toList, rfl, .word hm⟩
    | none => exact scanNumber_accounted s

theorem accounted (fuel : Nat) :
    ValueAccounted fuel ∧ ItemsAccounted fuel ∧ FieldsAccounted fuel := by
  -- A call that may go deeper by one makes its own calls with the count of the hypothesis.
  induction fuel with
  | zero => exact ⟨fun _ => trivial, fun _ => trivial, fun _ => trivial⟩
  | succ fuel ih =>
    obtain ⟨hv, hi, hf⟩ := ih
    exact ⟨.succ hi hf, .succ hv hi, .succ hv hf⟩

theorem Overlong.value_head {n : Nat} {s : List Char} (h : Overlong n .value s) :
    ∃ c u, s = c :: u ∧ Opens c := by
  cases h with
  | unsigned hw =>
    obtain ⟨c, u, rfl, hc⟩ := hw.head
    exact ⟨c, _, rfl, opens_of_isDigit hc⟩
  | negative | array | object => exact ⟨_, _, rfl, rfl, by decide, by decide, by decide⟩

theorem Overlong.opening {n : Nat} {s : List Char} (h : Overlong n .value s) : Opening s := by
  obtain ⟨c, u, rfl, hc⟩ := h.value_head
  exact ⟨[], c, u, blank_nil, rfl, hc⟩

theorem Overlong.head {n : Nat} {p : Place} {s : List Char} (h : Overlong n p s) :
    Opening s := by
  induction h with
  | unsigned hw hn hl ht => exact (Overlong.unsigned hw hn hl ht).opening
  | negative hw hn hl ht => exact (Overlong.negative hw hn hl ht).opening
  | array h => exact (Overlong.array h).opening
  | object h => exact (Overlong.object h).opening
  | item ha h =>
    obtain ⟨c, u, rfl, hc⟩ := h.value_head
    exact ⟨_, c, u, ha, rfl, hc⟩
  | thisItem _ ih | thisField _ ih => exact ih
  | laterItem ht | laterField ht => exact ht.head.append _
  | field ha => exact ⟨_, _, _, ha, rfl, rfl, by decide, by decide, by decide⟩

/-- Reading breaks off there, if the count lasts. -/
def Place.Breaks (n : Nat) : Place → List Char → Prop
  | .value, s => ∀ fuel, 2 * s.length ≤ fuel → scanValue fuel s = .error (.digits n)
  | .item, s => ∀ fuel, 2 * s.length ≤ fuel → scanValue fuel (skipSpace s) = .error (.digits n)
  | .items, s => ∀ fuel, 2 * s.length + 1 ≤ fuel →
    scanItems fuel (skipSpace s) = .error (.digits n)
  | .field, s | .fields, s => ∀ fuel, 2 * s.length + 1 ≤ fuel →
    scanFields fuel (skipSpace s) = .error (.digits n)

/-- What opens with something is not empty, so the count lasts for a call at least. -/
theorem breaks_value {n : Nat} {s : List Char} (hs : s ≠ [])
    (h : ∀ fuel, 2 * s.length ≤ fuel + 1 → scanValue (fuel + 1) s = .error (.digits n)) :
    Place.Breaks n .value s := by
  intro fuel hfuel
  have hlength := List.length_pos_iff.mpr hs
  obtain ⟨fuel, rfl⟩ : ∃ k, fuel = k + 1 := ⟨fuel - 1, by omega⟩
  exact h fuel hfuel

theorem breaks_items {n : Nat} {s : List Char}
    (h : ∀ fuel, 2 * s.length ≤ fuel →
      scanItems (fuel + 1) (skipSpace s) = .error (.digits n)) : Place.Breaks n .items s := by
  intro fuel hfuel
  obtain ⟨fuel, rfl⟩ : ∃ k, fuel = k + 1 := ⟨fuel - 1, by omega⟩
  exact h fuel (by omega)

theorem breaks_fields {n : Nat} {s : List Char}
    (h : ∀ fuel, 2 * s.length ≤ fuel →
      scanFields (fuel + 1) (skipSpace s) = .error (.digits n)) : Place.Breaks n .fields s := by
  intro fuel hfuel
  obtain ⟨fuel, rfl⟩ : ∃ k, fuel = k + 1 := ⟨fuel - 1, by omega⟩
  exact h fuel (by omega)

theorem Overlong.breaks {n : Nat} {p : Place} {s : List Char} (h : Overlong n p s) :
    p.Breaks n s := by
  induction h with
  | @unsigned ds rest hw hn hl ht =>
    obtain ⟨c, u, hds, -⟩ := hw.head
    refine breaks_value (by simp [hds]) fun fuel _ => ?_
    rw [scanValue_unsigned fuel rest hw.head, scanUnsigned_overlong _ false hw (by omega) ht, hn]
  | @negative ds rest hw hn hl ht =>
    refine breaks_value (List.cons_ne_nil _ _) fun fuel _ => ?_
    rw [scanValue_negative fuel rest hw.head, scanUnsigned_overlong _ true hw (by omega) ht, hn]
  | array h ih =>
    refine breaks_value (List.cons_ne_nil _ _) fun fuel hfuel => ?_
    rw [scanValue_items fuel h.head, ih fuel (by simp at hfuel; omega)]
    rfl
  | object h ih =>
    refine breaks_value (List.cons_ne_nil _ _) fun fuel hfuel => ?_
    rw [scanValue_fields fuel h.head, ih fuel (by simp at hfuel; omega)]
    rfl
  | item ha h ih =>
    intro fuel hfuel
    have hvalue := ih fuel (by simp at hfuel; omega)
    obtain ⟨c, u, rfl, hc⟩ := h.value_head
    rw [skipSpace_append ha, skipSpace_cons hc.space]
    exact hvalue
  | thisItem h ih =>
    refine breaks_items fun fuel hfuel => ?_
    rw [scanItems, ih fuel hfuel]
    rfl
  | @laterItem v t s ht h ih =>
    refine breaks_items fun fuel hfuel => ?_
    rw [List.length_append, List.length_cons] at hfuel
    rw [ht.reads.moreItems s (by omega), ih fuel (by omega)]
    rfl
  | @field key a k b s ha hk hb h ih =>
    refine breaks_fields fun fuel hfuel => ?_
    rw [scanFields_key fuel s ha hk hb, ih fuel (by simp at hfuel; omega)]
    rfl
  | thisField h ih => exact ih
  | @laterField f t s ht h ih =>
    refine breaks_fields fun fuel hfuel => ?_
    rw [List.length_append, List.length_cons] at hfuel
    rw [ht.reads.moreFields s (by omega), ih fuel (by omega)]
    rfl

theorem read_eq {c : Char} {s : List Char} (hc : c.toNat ≠ 0xfeff) :
    read (c :: s) = (do
      let (value, after) ← scanValue (2 * (c :: s).length + 2) (skipSpace (c :: s))
      match skipSpace after with
      | [] => return value
      | rest => .error (.malformed .extraData rest.length)) :=
  if_neg hc

theorem read_sound (s : List Char) :
    match read s with
    | .ok v => Spells (.item v) s
    | .error (.digits n) => Overlong n .item s
    | .error (.malformed _ _) => True := by
  cases s with
  | nil => trivial
  | cons c s =>
    by_cases hc : c.toNat = 0xfeff
    · simp only [read, if_pos hc]
    · have hitem := (accounted (2 * (c :: s).length + 2)).1.item (c :: s)
      rw [read_eq hc]
      cases hr : scanValue (2 * (c :: s).length + 2) (skipSpace (c :: s)) with
      | error fault =>
        rw [hr] at hitem
        cases fault with
        | malformed flaw left => trivial
        | digits n => exact hitem
      | ok found =>
        obtain ⟨v, after⟩ := found
        rw [hr] at hitem
        obtain ⟨t, ht, hv⟩ := hitem
        rw [ok_bind]
        dsimp only
        cases hend : skipSpace after with
        | cons d rest => trivial
        | nil =>
          rw [hend, List.append_nil] at ht
          rw [ht]
          exact hv

/-- A text is read as a value just if it spells that value. -/
theorem read_eq_ok_iff {s : List Char} {v : Value} :
    read s = .ok v ↔ Spells (.item v) s := by
  constructor
  · intro h
    have hs := read_sound s
    rw [h] at hs
    exact hs
  · intro h
    obtain ⟨after, hvalue, hafter⟩ := h.reads (2 * s.length + 2) [] (by omega)
      fun c rest hc => by cases hc
    obtain ⟨d, more, rfl, hmark⟩ := h.head.exists_cons
    rw [List.append_nil] at hvalue
    rw [read_eq hmark, hvalue]
    simp only [ok_bind, hafter]
    rfl

/-- Reading breaks off just at an integer that is too long. -/
theorem read_eq_digits_iff {s : List Char} {n : Nat} :
    read s = .error (.digits n) ↔ Overlong n .item s := by
  constructor
  · intro h
    have hs := read_sound s
    rw [h] at hs
    exact hs
  · intro h
    have hvalue := h.breaks (2 * s.length + 2) (by omega)
    obtain ⟨d, more, rfl, hmark⟩ := h.head.exists_cons
    rw [read_eq hmark, hvalue]
    rfl

end Banter.Json
