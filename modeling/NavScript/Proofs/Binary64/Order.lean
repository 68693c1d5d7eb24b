import NavScript.Proofs.Binary64.Word

namespace NavScript.Binary64

open NavScript.Decimal
open Float.Model Float.Model.UnpackedFloat

/-!
# The order of numbers

A number has a place on the line of the rational numbers with an end on either side, and numbers
are compared by their places.  What is not a number is not compared with anything.

* `value` — the rational number that a finite number is
* `place` — the place of a number
* `lt_iff`, `le_iff` — comparison is that of the places
* `lt_iff_value`, `le_iff_value` — for finite numbers it is that of the values
-/

/-! ### Places -/

/-- The rational numbers with an end on either side. -/
abbrev Line := WithBot (WithTop ℚ)

/-- A rational number on the line. -/
def onLine (v : ℚ) : Line := ((v : WithTop ℚ) : Line)

/-- The line keeps the order of the rational numbers in it. -/
@[simp] theorem onLine_lt {v w : ℚ} : onLine v < onLine w ↔ v < w := by simp [onLine]

@[simp] theorem onLine_le {v w : ℚ} : onLine v ≤ onLine w ↔ v ≤ w := by simp [onLine]

@[simp] theorem onLine_inj {v w : ℚ} : onLine v = onLine w ↔ v = w := by simp [onLine]

/-- Both infinities lie outside of them. -/
@[simp] theorem bot_lt_onLine (v : ℚ) : ⊥ < onLine v := WithBot.bot_lt_coe _

@[simp] theorem onLine_lt_top (v : ℚ) : onLine v < ⊤ := by
  rw [onLine, ← WithBot.coe_top, WithBot.coe_lt_coe]
  exact WithTop.coe_lt_top v

/-- A magnitude with a sign. -/
def signed (negative : Bool) (v : ℚ) : ℚ := if negative then -v else v

/-- The rational number that an exact value is; zero where it is none. -/
def valueOf : Exact → ℚ
  | .finite negative m e => signed negative (m * 2 ^ e)
  | _ => 0

/-- The place of an exact value. -/
def placeOf : Exact → Line
  | .infinite true => ⊥
  | .infinite false => ⊤
  | .finite negative m e => onLine (signed negative (m * 2 ^ e))
  | .nan => onLine 0

/-- The rational number that a finite number is; zero for the others. -/
def value (x : Float) : ℚ := valueOf (exact x)

/-- The place of a number: at its value, or at one of the ends. -/
def place (x : Float) : Line := placeOf (exact x)

/-- A finite number lies where its value does. -/
theorem place_eq_value {x : Float} (h : x.isFinite) : place x = onLine (value x) := by
  obtain ⟨negative, m, e, hx⟩ := (isFinite_iff x).mp h
  rw [place, value, hx]
  rfl

/-- A finite number is a number. -/
theorem ne_nan_of_isFinite {x : Float} (h : x.isFinite) : exact x ≠ .nan := by
  obtain ⟨negative, m, e, hx⟩ := (isFinite_iff x).mp h
  rw [hx]
  exact Exact.noConfusion

/-- A number between two rational numbers is finite. -/
theorem isFinite_of_between {x : Float} {v w : ℚ} (h : exact x ≠ .nan) (hv : onLine v ≤ place x)
    (hw : place x ≤ onLine w) : x.isFinite := by
  rw [isFinite_iff]
  rw [place] at hv hw
  cases hx : exact x with
  | nan => exact absurd hx h
  | infinite negative =>
    rw [hx] at hv hw
    cases negative with
    | true => exact absurd hv (bot_lt_onLine v).not_ge
    | false => exact absurd hw (onLine_lt_top w).not_ge
  | finite negative m e => exact ⟨negative, m, e, rfl⟩

/-! ### Comparison -/

/-- A number in canonical form is positive. -/
theorem Canonical.value_pos {m : Nat} {e : Int} (h : Canonical m e) : (0 : ℚ) < m * 2 ^ e :=
  mul_pos (by exact_mod_cast h.pos) (by positivity)

/-- The greater exponent makes the greater value. -/
theorem Canonical.value_lt {m n : Nat} {e f : Int} (h : Canonical m e) (h' : Canonical n f)
    (hef : e < f) : (m : ℚ) * 2 ^ e < n * 2 ^ f := by
  have hbottom := h.bottom
  have hm : (m : ℚ) < 2 * leadingOne := by exact_mod_cast h.small
  have hn : (leadingOne : ℚ) ≤ n := by exact_mod_cast h'.full.resolve_right (by omega)
  calc (m : ℚ) * 2 ^ e < 2 * leadingOne * 2 ^ e := mul_lt_mul_of_pos_right hm (by positivity)
    _ = leadingOne * 2 ^ (e + 1) := by
        rw [zpow_add₀ (by norm_num)]
        ring
    _ ≤ leadingOne * 2 ^ f :=
        mul_le_mul_of_nonneg_left (zpow_le_zpow_right₀ (by norm_num) (by omega)) (by positivity)
    _ ≤ n * 2 ^ f := mul_le_mul_of_nonneg_right hn (by positivity)

/-- Values are compared by their exponents first and then by their mantissas. -/
theorem Canonical.compares {m n : Nat} {e f : Int} (h : Canonical m e) (h' : Canonical n f) :
    ((compare e f).then (compare m n)).Compares ((m : ℚ) * 2 ^ e) (n * 2 ^ f) := by
  rcases lt_trichotomy e f with hef | rfl | hef
  · rw [compare_lt_iff_lt.mpr hef]
    exact h.value_lt h' hef
  · rw [compare_eq_iff_eq.mpr rfl]
    have hpos : (0 : ℚ) < 2 ^ e := by positivity
    rcases lt_trichotomy m n with hmn | rfl | hmn
    · rw [compare_lt_iff_lt.mpr hmn]
      exact mul_lt_mul_of_pos_right (by exact_mod_cast hmn) hpos
    · rw [compare_eq_iff_eq.mpr rfl]
      rfl
    · rw [compare_gt_iff_gt.mpr hmn]
      exact mul_lt_mul_of_pos_right (by exact_mod_cast hmn) hpos
  · rw [compare_gt_iff_gt.mpr hef]
    exact h'.value_lt h hef

/-- A comparison of rational numbers is one on the line. -/
theorem compares_onLine {o : Ordering} {v w : ℚ} (h : o.Compares v w) :
    o.Compares (onLine v) (onLine w) := by
  cases o <;> simpa [Ordering.Compares] using h

/-- Negation turns a comparison round. -/
theorem compares_neg {o : Ordering} {v w : ℚ} (h : o.Compares v w) :
    o.swap.Compares (-v) (-w) := by
  cases o <;> simpa [Ordering.Compares, Ordering.swap] using h

/-- The mantissa and the exponent of an unpacked word are those of a word. -/
def CanonicalParts : UnpackedFloat → Prop
  | .finite _ m e _ => Canonical m e
  | _ => True

/-- What a number unpacks to is in canonical form. -/
theorem canonicalParts (x : Float) : CanonicalParts x.toModel.unpack := by
  cases h : x.toModel.unpack with
  | finite s m e hm => exact (canonical_of_unpack h).1
  | _ => trivial

/-- Two finite words other than zeros are compared by their places. -/
theorem compare_finite {m n : Nat} {e f : Int} (s s' : Sign) (h : Canonical m e)
    (h' : Canonical n f) :
    ∃ o, UnpackedFloat.compare (.finite s m e h.pos) (.finite s' n f h'.pos) = some o ∧
      o.Compares (onLine (signed (isMinus s) (m * 2 ^ e)))
        (onLine (signed (isMinus s') (n * 2 ^ f))) := by
  have hpos := h.value_pos
  have hpos' := h'.value_pos
  cases s with
  | negative =>
    cases s' with
    | negative => exact ⟨_, rfl, compares_onLine (compares_neg (h.compares h'))⟩
    | positive =>
      refine ⟨.lt, rfl, compares_onLine ?_⟩
      change -((m : ℚ) * 2 ^ e) < n * 2 ^ f
      linarith
  | positive =>
    cases s' with
    | negative =>
      refine ⟨.gt, rfl, compares_onLine ?_⟩
      change -((n : ℚ) * 2 ^ f) < m * 2 ^ e
      linarith
    | positive => exact ⟨_, rfl, compares_onLine (h.compares h')⟩

/-- Words are compared by their places, and those that are no numbers not at all. -/
theorem compare_cases (u v : UnpackedFloat) (hu : CanonicalParts u) (hv : CanonicalParts v) :
    (u.compare v = none ∧ (exactOf u = .nan ∨ exactOf v = .nan)) ∨
      ∃ o, u.compare v = some o ∧ exactOf u ≠ .nan ∧ exactOf v ≠ .nan ∧
        o.Compares (placeOf (exactOf u)) (placeOf (exactOf v)) := by
  cases u with
  | notANumber => simp [UnpackedFloat.compare, exactOf]
  | infinity s =>
    cases v with
    | notANumber => cases s <;> simp [UnpackedFloat.compare, exactOf]
    | infinity s' | zero s' | finite s' =>
      cases s <;> cases s' <;>
        simp [UnpackedFloat.compare, exactOf, isMinus, placeOf, Ordering.Compares, compare]
  | zero s =>
    cases v with
    | notANumber => cases s <;> simp [UnpackedFloat.compare, exactOf]
    | infinity s' | zero s' =>
      cases s <;> cases s' <;>
        simp [UnpackedFloat.compare, exactOf, isMinus, placeOf, Ordering.Compares, signed]
    | finite s' m e hm =>
      have hpos := hv.value_pos
      cases s <;> cases s' <;>
        simp [UnpackedFloat.compare, exactOf, isMinus, placeOf, Ordering.Compares, signed, hpos]
  | finite s m e hm =>
    have hpos := hu.value_pos
    cases v with
    | notANumber => cases s <;> simp [UnpackedFloat.compare, exactOf]
    | infinity s' | zero s' =>
      cases s <;> cases s' <;>
        simp [UnpackedFloat.compare, exactOf, isMinus, placeOf, Ordering.Compares, signed, hpos]
    | finite s' n f hn =>
      obtain ⟨o, hcompare, hplaces⟩ := compare_finite s s' hu hv
      exact .inr ⟨o, hcompare, Exact.noConfusion, Exact.noConfusion, hplaces⟩

/-- What holds of the comparison of two numbers. -/
theorem compare_cases_float (x y : Float) :
    (x.toModel.unpack.compare y.toModel.unpack = none ∧ (exact x = .nan ∨ exact y = .nan)) ∨
      ∃ o, x.toModel.unpack.compare y.toModel.unpack = some o ∧ exact x ≠ .nan ∧ exact y ≠ .nan ∧
        o.Compares (place x) (place y) := by
  rw [place, place, exact_eq_exactOf, exact_eq_exactOf]
  exact compare_cases _ _ (canonicalParts x) (canonicalParts y)

/-- Less than: both are numbers, and one lies before the other. -/
theorem lt_iff {x y : Float} : x < y ↔ exact x ≠ .nan ∧ exact y ≠ .nan ∧ place x < place y := by
  change decide (x.toModel < y.toModel) = true ↔ _
  rw [decide_eq_true_iff]
  change (x.toModel.unpack.compare y.toModel.unpack == some .lt) = true ↔ _
  obtain ⟨hc, hnan⟩ | ⟨o, hc, hx, hy, ho⟩ := compare_cases_float x y
  · rw [hc]
    rcases hnan with hnan | hnan <;> simp [hnan]
  · rw [hc]
    cases o <;> simp only [Ordering.Compares] at ho
    · simpa [hx, hy] using ho
    · simp [ho]
    · simp [ho.not_gt]

/-- Less than or equal, likewise. -/
theorem le_iff {x y : Float} : x ≤ y ↔ exact x ≠ .nan ∧ exact y ≠ .nan ∧ place x ≤ place y := by
  change decide (x.toModel ≤ y.toModel) = true ↔ _
  rw [decide_eq_true_iff]
  change ((x.toModel.unpack.compare y.toModel.unpack).any (·.isLE)) = true ↔ _
  obtain ⟨hc, hnan⟩ | ⟨o, hc, hx, hy, ho⟩ := compare_cases_float x y
  · rw [hc]
    rcases hnan with hnan | hnan <;> simp [hnan]
  · rw [hc]
    cases o <;> simp only [Ordering.Compares] at ho
    · simpa [hx, hy] using ho.le
    · simp [hx, hy, ho]
    · simp [ho.not_ge]

/-- Finite numbers are compared by their values. -/
theorem lt_iff_value {x y : Float} (hx : x.isFinite) (hy : y.isFinite) :
    x < y ↔ value x < value y := by
  rw [lt_iff, place_eq_value hx, place_eq_value hy, onLine_lt]
  simp [ne_nan_of_isFinite hx, ne_nan_of_isFinite hy]

/-- So they are for less than or equal. -/
theorem le_iff_value {x y : Float} (hx : x.isFinite) (hy : y.isFinite) :
    x ≤ y ↔ value x ≤ value y := by
  rw [le_iff, place_eq_value hx, place_eq_value hy, onLine_le]
  simp [ne_nan_of_isFinite hx, ne_nan_of_isFinite hy]

end NavScript.Binary64
