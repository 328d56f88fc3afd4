import Banter.Proofs.Json.Numeral

/-! How JSON is spelled: the grammar that the reader follows, without the reader. -/
namespace Banter.Json

open Banter.Text (CodePoint hexValue4)

def Blank (s : List Char) : Prop :=
  ∀ c ∈ s, isSpace c = true

theorem blank_nil : Blank [] :=
  fun _ hc => absurd hc List.not_mem_nil

/-- The inside of a string with its closing quote. -/
inductive Quoted : List CodePoint → List Char → Prop
  | close : Quoted [] ['\x22']
  | plain {cs : List CodePoint} {t : List Char} {c : Char} (hq : c ≠ '\x22') (hb : c ≠ '\x5c')
    (hc : 0x20 ≤ c.toNat) (h : Quoted cs t) : Quoted (.scalar c :: cs) (c :: t)
  | escape {cs : List CodePoint} {t : List Char} {e x : Char} (he : simpleEscape e = some x)
    (h : Quoted cs t) : Quoted (.scalar x :: cs) ('\x5c' :: e :: t)
  | unit {cs : List CodePoint} {t : List Char} {a b c d : Char} {n : Nat}
    (hn : hexValue4 a b c d = some n) (h : Quoted cs t) :
    Quoted (CodePoint.ofUnit n :: cs) ('\x5c' :: 'u' :: a :: b :: c :: d :: t)

/-- A value, also with blanks around it, and what arrays and objects are made of. -/
inductive Part where
  | value (v : Value)
  | item (v : Value)
  | items (vs : List Value)
  | field (f : List CodePoint × Value)
  | fields (fs : List (List CodePoint × Value))

inductive Spells : Part → List Char → Prop
  | word {w : String} {v : Value} (h : (w, v) ∈ literals) : Spells (.value v) w.toList
  | unsigned {v : Value} {t : List Char} (h : Unsigned false v t) : Spells (.value v) t
  | negative {v : Value} {t : List Char} (h : Unsigned true v t) : Spells (.value v) ('-' :: t)
  | string {cs : List CodePoint} {t : List Char} (h : Quoted cs t) :
    Spells (.value (.str (CodePoint.joinHalves cs))) ('\x22' :: t)
  | noItems {s : List Char} (hs : Blank s) : Spells (.value (.arr [])) ('[' :: (s ++ [']']))
  | array {vs : List Value} {t : List Char} (h : Spells (.items vs) t) :
    Spells (.value (.arr vs)) ('[' :: (t ++ [']']))
  | noFields {s : List Char} (hs : Blank s) :
    Spells (.value (.obj [])) ('\x7b' :: (s ++ ['\x7d']))
  | object {fs : List (List CodePoint × Value)} {t : List Char} (h : Spells (.fields fs) t) :
    Spells (.value (.obj (assignAll fs))) ('\x7b' :: (t ++ ['\x7d']))
  | item {v : Value} {a t b : List Char} (ha : Blank a) (h : Spells (.value v) t) (hb : Blank b) :
    Spells (.item v) (a ++ (t ++ b))
  | lastItem {v : Value} {t : List Char} (h : Spells (.item v) t) : Spells (.items [v]) t
  | moreItems {v : Value} {vs : List Value} {t u : List Char} (h : Spells (.item v) t)
    (hs : Spells (.items vs) u) : Spells (.items (v :: vs)) (t ++ ',' :: u)
  | field {key : List CodePoint} {v : Value} {a k b t : List Char} (ha : Blank a)
    (hk : Quoted key k) (hb : Blank b) (h : Spells (.item v) t) :
    Spells (.field (CodePoint.joinHalves key, v)) (a ++ '\x22' :: (k ++ (b ++ ':' :: t)))
  | lastField {f : List CodePoint × Value} {t : List Char} (h : Spells (.field f) t) :
    Spells (.fields [f]) t
  | moreFields {f : List CodePoint × Value} {fs : List (List CodePoint × Value)} {t u : List Char}
    (h : Spells (.field f) t) (hs : Spells (.fields fs) u) :
    Spells (.fields (f :: fs)) (t ++ ',' :: u)

inductive Place where
  | value
  | item
  | items
  | field
  | fields

/-- An integer that is too long, with `n` digits, is met before the spelling goes wrong. -/
inductive Overlong (n : Nat) : Place → List Char → Prop
  | unsigned {ds rest : List Char} (hw : Whole ds) (hn : ds.length = n) (hl : digitLimit < n)
    (ht : Terse rest) : Overlong n .value (ds ++ rest)
  | negative {ds rest : List Char} (hw : Whole ds) (hn : ds.length = n) (hl : digitLimit < n)
    (ht : Terse rest) : Overlong n .value ('-' :: (ds ++ rest))
  | array {s : List Char} (h : Overlong n .items s) : Overlong n .value ('[' :: s)
  | object {s : List Char} (h : Overlong n .fields s) : Overlong n .value ('\x7b' :: s)
  | item {a s : List Char} (ha : Blank a) (h : Overlong n .value s) : Overlong n .item (a ++ s)
  | thisItem {s : List Char} (h : Overlong n .item s) : Overlong n .items s
  | laterItem {v : Value} {t s : List Char} (ht : Spells (.item v) t) (h : Overlong n .items s) :
    Overlong n .items (t ++ ',' :: s)
  | field {key : List CodePoint} {a k b s : List Char} (ha : Blank a) (hk : Quoted key k)
    (hb : Blank b) (h : Overlong n .item s) :
    Overlong n .field (a ++ '\x22' :: (k ++ (b ++ ':' :: s)))
  | thisField {s : List Char} (h : Overlong n .field s) : Overlong n .fields s
  | laterField {f : List CodePoint × Value} {t s : List Char} (ht : Spells (.field f) t)
    (h : Overlong n .fields s) : Overlong n .fields (t ++ ',' :: s)

theorem skipSpace_append {a s : List Char} (ha : Blank a) : skipSpace (a ++ s) = skipSpace s :=
  List.dropWhile_append_of_pos ha

theorem skipSpace_cons {c : Char} {s : List Char} (hc : isSpace c = false) :
    skipSpace (c :: s) = c :: s := by
  simp [skipSpace, hc]

theorem exists_blank (s : List Char) : ∃ a, Blank a ∧ s = a ++ skipSpace s :=
  ⟨s.takeWhile isSpace, fun _ hc => List.mem_takeWhile_imp hc,
    List.takeWhile_append_dropWhile.symm⟩

/-- A character that neither is blank nor closes anything, and no byte order mark. -/
structure Opens (c : Char) : Prop where
  space : isSpace c = false
  bracket : c ≠ ']'
  brace : c ≠ '\x7d'
  mark : c.toNat ≠ 0xfeff

/-- Blanks, and then a character that opens something. -/
def Opening (s : List Char) : Prop :=
  ∃ a c u, Blank a ∧ s = a ++ c :: u ∧ Opens c

theorem Opening.append {s : List Char} (h : Opening s) (more : List Char) :
    Opening (s ++ more) := by
  obtain ⟨a, c, u, ha, rfl, hc⟩ := h
  exact ⟨a, c, u ++ more, ha, by simp only [List.append_assoc, List.cons_append], hc⟩

theorem Opening.skipSpace {s : List Char} (h : Opening s) :
    ∃ c u, skipSpace s = c :: u ∧ Opens c := by
  obtain ⟨a, c, u, ha, rfl, hc⟩ := h
  exact ⟨c, u, by rw [skipSpace_append ha, skipSpace_cons hc.space], hc⟩

theorem Opening.exists_cons {s : List Char} (h : Opening s) :
    ∃ d u, s = d :: u ∧ d.toNat ≠ 0xfeff := by
  obtain ⟨a, c, u, ha, rfl, hc⟩ := h
  cases a with
  | nil => exact ⟨c, u, rfl, hc.mark⟩
  | cons d a =>
    refine ⟨d, a ++ c :: u, rfl, ?_⟩
    have hd : isSpace d = true := ha d List.mem_cons_self
    simp only [isSpace, Bool.or_eq_true, beq_iff_eq] at hd
    obtain ((rfl | rfl) | rfl) | rfl := hd <;> decide

theorem Whole.head {ds : List Char} (hw : Whole ds) :
    ∃ c u, ds = c :: u ∧ c.isDigit = true := by
  obtain ⟨c, u, rfl⟩ := List.exists_cons_of_ne_nil hw.1.1
  exact ⟨c, u, rfl, hw.1.2 c List.mem_cons_self⟩

theorem Unsigned.head {negative : Bool} {v : Value} {t : List Char} (h : Unsigned negative v t) :
    ∃ c u, t = c :: u ∧ c.isDigit = true := by
  cases h with
  | int hw => exact hw.head
  | float hw =>
    obtain ⟨c, u, rfl, hc⟩ := hw.head
    exact ⟨c, _, rfl, hc⟩

theorem opens_of_isDigit {c : Char} (hc : c.isDigit = true) : Opens c := by
  constructor
  case space =>
    rw [Bool.eq_false_iff]
    intro hs
    simp only [isSpace, Bool.or_eq_true, beq_iff_eq] at hs
    obtain ((rfl | rfl) | rfl) | rfl := hs <;> cases hc
  case bracket =>
    rintro rfl
    cases hc
  case brace =>
    rintro rfl
    cases hc
  case mark =>
    have hle := (Char.isDigit_iff_toNat.mp hc).2
    intro hmark
    rw [hmark] at hle
    exact absurd hle (by decide)

/-- How a word begins: neither like a number nor like anything that is closed again. -/
structure WordHead (c : Char) (u : List Char) : Prop where
  opens : Opens c
  quote : c ≠ '\x22'
  bracket : c ≠ '['
  brace : c ≠ '\x7b'
  digit : c.isDigit = false
  sign : c = '-' → ∃ d t, u = d :: t ∧ d.isDigit = false

theorem exists_wordHead {w : String} {v : Value} (h : (w, v) ∈ literals) :
    ∃ c u, w.toList = c :: u ∧ WordHead c u := by
  have hopens : ∀ c ∈ ['n', 't', 'f', 'N', 'I', '-'], Opens c := by
    intro c hc
    simp only [List.mem_cons, List.not_mem_nil, or_false] at hc
    obtain rfl | rfl | rfl | rfl | rfl | rfl := hc <;> exact ⟨rfl, by decide, by decide, by decide⟩
  simp only [literals, List.mem_cons, List.not_mem_nil, or_false, Prod.mk.injEq] at h
  obtain ⟨rfl, -⟩ | ⟨rfl, -⟩ | ⟨rfl, -⟩ | ⟨rfl, -⟩ | ⟨rfl, -⟩ | ⟨rfl, -⟩ := h
  case inr.inr.inr.inr.inr =>
    exact ⟨_, _, rfl, hopens _ (by decide), by decide, by decide, by decide, rfl,
      fun _ => ⟨_, _, rfl, rfl⟩⟩
  all_goals
    exact ⟨_, _, rfl, hopens _ (by decide), by decide, by decide, by decide, rfl,
      fun hsign => absurd hsign (by decide)⟩

theorem Spells.value_head {v : Value} {t : List Char} (h : Spells (.value v) t) :
    ∃ c u, t = c :: u ∧ Opens c := by
  cases h with
  | word h =>
    obtain ⟨c, u, hw, hhead⟩ := exists_wordHead h
    exact ⟨c, u, hw, hhead.opens⟩
  | unsigned h =>
    obtain ⟨c, u, rfl, hc⟩ := h.head
    exact ⟨c, u, rfl, opens_of_isDigit hc⟩
  | negative | string | noItems | array | noFields | object =>
    exact ⟨_, _, rfl, rfl, by decide, by decide, by decide⟩

theorem Spells.opening {v : Value} {t : List Char} (h : Spells (.value v) t) : Opening t := by
  obtain ⟨c, u, rfl, hc⟩ := h.value_head
  exact ⟨[], c, u, blank_nil, rfl, hc⟩

theorem Spells.head {p : Part} {t : List Char} (h : Spells p t) : Opening t := by
  induction h with
  | word h => exact (Spells.word h).opening
  | unsigned h => exact (Spells.unsigned h).opening
  | negative h => exact (Spells.negative h).opening
  | string h => exact (Spells.string h).opening
  | noItems h => exact (Spells.noItems h).opening
  | array h => exact (Spells.array h).opening
  | noFields h => exact (Spells.noFields h).opening
  | object h => exact (Spells.object h).opening
  | @item _ a _ b ha h =>
    obtain ⟨c, u, rfl, hc⟩ := h.value_head
    exact ⟨a, c, u ++ b, ha, rfl, hc⟩
  | lastItem _ ih | lastField _ ih => exact ih
  | moreItems _ _ ih _ | moreFields _ _ ih _ => exact ih.append _
  | field ha => exact ⟨_, _, _, ha, rfl, rfl, by decide, by decide, by decide⟩

end Banter.Json
