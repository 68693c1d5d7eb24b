import Mathlib.Data.List.Forall2
import NavScript.Proofs.Directive
import NavScript.Proofs.Text.Token

namespace NavScript

open NavScript.Geometry
open NavScript.Text (tokens isMark isSeparator IsToken)

/-!
# The count of places in a line

A directive that is written with different counts of places gives lines of as many tokens, and these
differ in nothing but how the same numbers are written.

* `SameToken`, `SameTokens` — tokens and texts that differ in the count of places only
* `SameTokens.append`, `SameTokens.join`, `SameTokens.intercalate` — texts put together
* `Directive.sameTokens_render` — a directive with two counts of places
-/

/-- The same token, or the same number with its own count of places. -/
def SameToken (p q : Nat) (a b : List Char) : Prop :=
  a = b ∨ ∃ x, a = (Decimal.fixed p x).toList ∧ b = (Decimal.fixed q x).toList

/-- Texts whose tokens are the same one after the other, but for the places of numbers. -/
def SameTokens (p q : Nat) (a b : String) : Prop :=
  List.Forall₂ (SameToken p q) (tokens a.toList) (tokens b.toList)

/-! ### Numbers are tokens -/

/-- There are no brackets or commas in a number, and no blanks. -/
theorem isSeparator_of_mem_fixed {places : Nat} {x : Float} {c : Char}
    (h : c ∈ (Decimal.fixed places x).toList) : isSeparator c = false := by
  rw [isSeparator, isBlank_of_mem_fixed h, Bool.false_or]
  by_cases hx : ∃ negative m q, Decimal.exact x = .finite negative m q
  · obtain ⟨negative, m, q, hx⟩ := hx
    rcases mem_fixed_of_finite hx h with hdigit | rfl | rfl
    · cases hmark : isMark c with
      | false => rfl
      | true =>
        simp only [isMark, Bool.or_eq_true, beq_iff_eq] at hmark
        rcases hmark with (rfl | rfl) | rfl <;> exact absurd hdigit (by decide)
    · rfl
    · rfl
  · have hwords : ∀ text ∈ nonNumerals, text.toList.all (!isMark ·) := by decide
    have hall := hwords _ ((fixed_mem_nonNumerals_iff places x).mpr hx)
    simpa using List.all_eq_true.mp hall c h

/-- A decimal has a digit in front of its point. -/
theorem pointed_ne_nil (places n : Nat) : Decimal.pointed places n ≠ [] := by
  unfold Decimal.pointed
  dsimp only
  -- zeros in front make up for digits that are missing
  have hlength : places <
      (List.replicate (places + 1 - (Decimal.digits n).length) '0' ++ Decimal.digits n).length := by
    simp only [List.length_append, List.length_replicate]
    omega
  generalize List.replicate (places + 1 - (Decimal.digits n).length) '0' ++ Decimal.digits n = ds
    at hlength
  have hwhole : ds.take (ds.length - places) ≠ [] := by
    simp only [ne_eq, List.take_eq_nil_iff, not_or]
    exact ⟨by omega, List.ne_nil_of_length_pos (by omega)⟩
  split
  · exact hwhole
  · simp

/-- A number is one token. -/
theorem isToken_fixed (places : Nat) (x : Float) : IsToken (Decimal.fixed places x).toList := by
  refine ⟨?_, fun _ => isSeparator_of_mem_fixed⟩
  rw [Decimal.fixed, String.toList_ofList, Decimal.fixedChars]
  cases Decimal.exact x with
  | nan => simp
  | infinite negative => simp
  | finite negative m q => simp [pointed_ne_nil]

/-! ### Texts -/

namespace SameTokens

variable {p q : Nat} {a b c d : String}

/-- A text has the tokens of itself. -/
theorem refl (a : String) : SameTokens p q a a :=
  List.forall₂_same.mpr fun _ _ => .inl rfl

/-- A number is a number with any count of places. -/
theorem fixed (x : Float) : SameTokens p q (Decimal.fixed p x) (Decimal.fixed q x) := by
  unfold SameTokens
  rw [Text.tokens_of_isToken (isToken_fixed p x), Text.tokens_of_isToken (isToken_fixed q x)]
  exact .cons (.inr ⟨x, rfl, rfl⟩) .nil

/-- The two texts have a separator between them. -/
def Apart (a b : String) : Prop :=
  a.toList.getLast?.any isSeparator = true ∨ b.toList.head?.any isSeparator = true

instance : Decidable (Apart a b) :=
  inferInstanceAs (Decidable (_ ∨ _))

/-- Texts put together where no token goes across. -/
theorem append (hac : Apart a c) (hbd : Apart b d) (hab : SameTokens p q a b)
    (hcd : SameTokens p q c d) : SameTokens p q (a ++ c) (b ++ d) := by
  unfold SameTokens
  rw [String.toList_append, String.toList_append, Text.tokens_append hac, Text.tokens_append hbd]
  exact List.rel_append hab hcd

/-- Texts behind one and the same text that ends with a separator. -/
theorem behind (front : String) (hfront : front.toList.getLast?.any isSeparator = true)
    (h : SameTokens p q a b) : SameTokens p q (front ++ a) (front ++ b) :=
  append (.inl hfront) (.inl hfront) (refl front) h

/-- Texts in front of one and the same text that begins with a separator. -/
theorem before (back : String) (hback : back.toList.head?.any isSeparator = true)
    (h : SameTokens p q a b) : SameTokens p q (a ++ back) (b ++ back) :=
  append (.inr hback) (.inr hback) h (refl back)

/-- Texts with one and the same separator between them. -/
theorem join (mark : Char) (hmark : isSeparator mark = true) (hab : SameTokens p q a b)
    (hcd : SameTokens p q c d) :
    SameTokens p q (a ++ String.singleton mark ++ c) (b ++ String.singleton mark ++ d) := by
  refine append (.inl ?_) (.inl ?_) (before _ (by simpa using hmark) hab) hcd <;> simpa using hmark

/-- Texts with commas between them. -/
theorem intercalate {α : Type} (f g : α → String) (h : ∀ x, SameTokens p q (f x) (g x))
    (xs : List α) :
    SameTokens p q (",".intercalate (xs.map f)) (",".intercalate (xs.map g)) := by
  -- a comma stands behind every text but the last
  induction xs with
  | nil => exact refl _
  | cons x xs ih =>
    cases xs with
    | nil =>
      rw [List.map_singleton, List.map_singleton, String.intercalate_singleton,
        String.intercalate_singleton]
      exact h x
    | cons y ys =>
      simp only [List.map_cons, String.intercalate_cons_cons] at ih ⊢
      exact join ',' rfl (h x) ih

end SameTokens

/-! ### Directives -/

section Directive

variable (p q : Nat)

/-- Two numbers, a blank between them. -/
theorem sameTokens_pair (v : Vertex) : SameTokens p q (pair p v) (pair q v) :=
  .join ' ' rfl (.fixed v.x) (.fixed v.y)

/-- The vertices of a polygon. -/
theorem sameTokens_polygon (path : Path) : SameTokens p q (polygon p path) (polygon q path) :=
  .before _ rfl <| .behind _ rfl <| .intercalate _ _ (sameTokens_pair p q) path

/-- Polygons. -/
theorem sameTokens_multipolygon (paths : List Path) :
    SameTokens p q (multipolygon p paths) (multipolygon q paths) :=
  .before _ rfl <| .behind _ rfl <| .intercalate _ _ (sameTokens_polygon p q) paths

/-- A directive with two counts of places has the same tokens but for its numbers. -/
theorem Directive.sameTokens_render (d : Directive) : SameTokens p q (d.render p) (d.render q) := by
  cases d with
  | handedOn words => exact .refl _
  | arenaSize side => exact .behind _ rfl (.fixed side)
  | arena rings => exact .behind _ rfl (sameTokens_multipolygon p q rings)
  | addLabel v text => exact .join ' ' rfl (.behind _ rfl (sameTokens_pair p q v)) (.refl text)
  | goto v => exact .behind _ rfl (sameTokens_pair p q v)
  | placeAgent v heading =>
    exact .join ' ' rfl (.behind _ rfl (sameTokens_pair p q v)) (.fixed heading)
  | fence name ring => exact .join ' ' rfl (.refl _) (sameTokens_multipolygon p q [ring])

end Directive

end NavScript
