import NavScript.PathData.Points

namespace NavScript.PathData

open NavScript.Geometry

/-!
# Steps of the pen

Path data is read in small steps, each of which succeeds or names a fault.  Every step gets one
lemma that says when it succeeds and what it leaves; nothing after this module unfolds a step again.

* `Coordinate` — the tokens that are read as coordinates
* `Mode.target` — the running point after a pair
* `Pen.drawPair_eq_ok_iff`, `Pen.finish_eq_ok_iff`, `Pen.close_eq_ok_iff` — the steps of the loop
* `Fault.ofSize` — the faults of a text that is too long, which only a full pen meets in the loop
-/

/-! ### Coordinates -/

/-- A token that is the numeral of a number within bounds. -/
def Coordinate (token : List Char) (x : Float) : Prop :=
  Decimal.readChars? token = some x ∧ inBounds x = true

/-- Both coordinates of a point lie within bounds. -/
def Bounded (p : Point) : Prop :=
  inBounds p.x = true ∧ inBounds p.y = true

/-- A coordinate is read exactly if the token is one. -/
theorem coordinate_eq_ok_iff (token : List Char) (x : Float) :
    coordinate token = .ok x ↔ Coordinate token x := by
  unfold coordinate Coordinate
  cases h : Decimal.readChars? token with
  | none => simp
  | some v =>
    by_cases hv : inBounds v = true
    · simp only [hv, if_true, Except.ok.injEq, Option.some.injEq]
      constructor
      · rintro rfl
        exact ⟨rfl, hv⟩
      · exact And.left
    · simp only [hv, if_false, reduceCtorEq, Option.some.injEq, false_iff, not_and]
      rintro rfl
      exact hv

/-- Two tokens are the coordinates of at most one point. -/
theorem Coordinate.eq_of_pair {x y : List Char} {p q : Point} (hpx : Coordinate x p.x)
    (hpy : Coordinate y p.y) (hqx : Coordinate x q.x) (hqy : Coordinate y q.y) : p = q := by
  have hx : p.x = q.x := Option.some.inj (hpx.1.symm.trans hqx.1)
  have hy : p.y = q.y := Option.some.inj (hpy.1.symm.trans hqy.1)
  cases p
  cases q
  simp_all

/-- So is a pair. -/
theorem pair_eq_ok_iff (x y : List Char) (p : Point) :
    pair x y = .ok p ↔ Coordinate x p.x ∧ Coordinate y p.y := by
  rw [← coordinate_eq_ok_iff, ← coordinate_eq_ok_iff]
  unfold pair
  cases coordinate x with
  | error e => simp [bind, Except.bind]
  | ok u =>
    cases coordinate y with
    | error e => simp [bind, Except.bind]
    | ok v =>
      cases p
      simp [bind, Except.bind, pure, Except.pure]

/-! ### The running point -/

/-- The running point after a pair, wherever it lies. -/
def Mode.target : Mode → Point → Point → Point
  | .absolute, _, p => p
  | .relative, origin, p => ⟨p.x + origin.x, p.y + origin.y⟩

/-- The pen advances to a target in bounds; only a relative one can be out of them. -/
theorem Mode.advance_eq_ok_iff (m : Mode) (origin p q : Point) :
    m.advance origin p = .ok q ↔
      (m = .relative → Bounded (m.target origin p)) ∧ q = m.target origin p := by
  cases m with
  | absolute =>
    simp only [Mode.advance, Mode.target, reduceCtorEq, false_implies, true_and, Except.ok.injEq]
    exact eq_comm
  | relative =>
    simp only [Mode.advance, Mode.target, Bounded, forall_const, ← Bool.and_eq_true]
    split
    · rename_i h
      rw [Except.ok.injEq, and_iff_right h]
      exact eq_comm
    · rename_i h
      simp [h]

/-! ### The pen -/

namespace Pen

/-- The pen after a point has been drawn. -/
def drawnTo (pen : Pen) (q : Point) : Pen :=
  ⟨pen.mode, q, pen.count + 1, q :: pen.drawn⟩

@[simp] theorem drawnTo_mode (pen : Pen) (q : Point) : (pen.drawnTo q).mode = pen.mode := rfl
@[simp] theorem drawnTo_position (pen : Pen) (q : Point) : (pen.drawnTo q).position = q := rfl
@[simp] theorem drawnTo_count (pen : Pen) (q : Point) : (pen.drawnTo q).count = pen.count + 1 := rfl
@[simp] theorem drawnTo_drawn (pen : Pen) (q : Point) :
    (pen.drawnTo q).drawn = q :: pen.drawn := rfl

/-- The pen draws as long as there is room. -/
theorem draw_eq_ok_iff (pen pen' : Pen) (q : Point) :
    pen.draw q = .ok pen' ↔ pen.count < pointLimit ∧ pen' = pen.drawnTo q := by
  unfold draw drawnTo
  by_cases h : pointLimit ≤ pen.count
  · simp [h, Nat.not_lt.mpr h]
  · rw [if_neg h, Except.ok.injEq, and_iff_right (Nat.lt_of_not_le h)]
    exact eq_comm

/-- A pair is drawn where a mode is known, both tokens are coordinates, a relative pair stays within
    bounds, and there is room for one more point. -/
theorem drawPair_eq_ok_iff (pen pen' : Pen) (x y : List Char) :
    pen.drawPair x (some y) = .ok pen' ↔
      ∃ m p, pen.mode = some m ∧ Coordinate x p.x ∧ Coordinate y p.y ∧
        (m = .relative → Bounded (m.target pen.position p)) ∧ pen.count < pointLimit ∧
        pen' = pen.drawnTo (m.target pen.position p) := by
  unfold drawPair
  cases hm : pen.mode with
  | none => simp
  | some m =>
    simp only [Option.some.injEq]
    constructor
    · intro h
      cases hp : pair x y with
      | error e => simp [hp, Except.bind] at h
      | ok p =>
        cases hq : m.advance pen.position p with
        | error e => simp [hp, hq, Except.bind] at h
        | ok q =>
          obtain ⟨hx, hy⟩ := (pair_eq_ok_iff x y p).mp hp
          obtain ⟨hb, rfl⟩ := (Mode.advance_eq_ok_iff m pen.position p q).mp hq
          simp only [hp, hq, Except.bind] at h
          obtain ⟨hc, rfl⟩ := (draw_eq_ok_iff _ _ _).mp h
          exact ⟨m, p, rfl, hx, hy, hb, hc, rfl⟩
    · rintro ⟨m', p, rfl, hx, hy, hb, hc, rfl⟩
      have hp : pair x y = .ok p := (pair_eq_ok_iff x y p).mpr ⟨hx, hy⟩
      have hq : m.advance pen.position p = .ok (m.target pen.position p) :=
        (Mode.advance_eq_ok_iff m pen.position p _).mpr ⟨hb, rfl⟩
      simp only [hp, hq, Except.bind]
      exact (draw_eq_ok_iff _ _ _).mpr ⟨hc, rfl⟩

/-- A coordinate without a second one is never drawn. -/
theorem drawPair_none_ne_ok (pen pen' : Pen) (x : List Char) : pen.drawPair x none ≠ .ok pen' := by
  unfold drawPair
  cases pen.mode with
  | none => simp
  | some m => cases coordinate x <;> simp [Except.bind]

/-- A pen that has drawn something is done. -/
theorem finish_eq_ok_iff (pen : Pen) (ps : List Point) :
    pen.finish = .ok ps ↔ pen.drawn.reverse ≠ [] ∧ ps = pen.drawn.reverse := by
  unfold finish
  cases pen.drawn with
  | nil => simp
  | cons q rest =>
    simp only [List.isEmpty_cons, Bool.false_eq_true, if_false, Except.ok.injEq, ne_eq,
      List.reverse_eq_nil_iff, reduceCtorEq, not_false_eq_true, true_and]
    exact eq_comm

/-- A path is closed by its first point once more, and only at the end of the tokens. -/
theorem close_eq_ok_iff (pen : Pen) (rest : List (List Char)) (ps : List Point) :
    pen.close rest = .ok ps ↔
      rest = [] ∧ pen.drawn.reverse ≠ [] ∧
        ps = pen.drawn.reverse ++ pen.drawn.reverse.head?.toList := by
  unfold close
  rw [List.head?_reverse]
  cases hd : pen.drawn.getLast? with
  | none => simp_all
  | some first =>
    have hne : pen.drawn ≠ [] := by
      intro h
      simp [h] at hd
    cases rest with
    | nil =>
      simp only [List.reverse_cons, Except.ok.injEq, ne_eq, List.reverse_eq_nil_iff, hne,
        not_false_eq_true, true_and, Option.toList_some]
      exact eq_comm
    | cons token rest => simp

end Pen

/-! ### Faults of size -/

/-- The fault of a text that has too many bytes or points, whatever its tokens are. -/
def Fault.ofSize : Fault → Bool
  | .tooLong _ => true
  | .tooManyPoints => true
  | _ => false

/-- A coordinate that cannot be read is no matter of size. -/
theorem ofSize_of_coordinate {token : List Char} {f : Fault} (h : coordinate token = .error f) :
    f.ofSize = false := by
  unfold coordinate at h
  split at h
  · cases h
    rfl
  · split at h <;> cases h
    rfl

/-- Nor is a pair. -/
theorem ofSize_of_pair {x y : List Char} {f : Fault} (h : pair x y = .error f) :
    f.ofSize = false := by
  unfold pair at h
  cases hx : coordinate x with
  | error e =>
    rw [hx] at h
    cases h
    exact ofSize_of_coordinate hx
  | ok u =>
    cases hy : coordinate y with
    | error e =>
      rw [hx, hy] at h
      cases h
      exact ofSize_of_coordinate hy
    | ok v =>
      rw [hx, hy] at h
      cases h

/-- Nor is a target out of bounds. -/
theorem Mode.ofSize_of_advance {m : Mode} {origin p : Point} {f : Fault}
    (h : m.advance origin p = .error f) : f.ofSize = false := by
  cases m with
  | absolute => cases h
  | relative =>
    simp only [Mode.advance] at h
    split at h <;> cases h
    rfl

namespace Pen

/-- Only a full pen refuses a pair for its size. -/
theorem full_of_drawPair {pen : Pen} {x : List Char} {y : Option (List Char)} {f : Fault}
    (h : pen.drawPair x y = .error f) (hf : f.ofSize = true) : pointLimit ≤ pen.count := by
  unfold drawPair at h
  split at h
  · cases h
    cases hf
  · rename_i m hm
    split at h
    · cases hx : coordinate x with
      | error e =>
        rw [hx] at h
        cases h
        simp [ofSize_of_coordinate hx] at hf
      | ok u =>
        rw [hx] at h
        cases h
        cases hf
    · rename_i y
      cases hp : pair x y with
      | error e =>
        rw [hp] at h
        cases h
        simp [ofSize_of_pair hp] at hf
      | ok p =>
        cases hq : m.advance pen.position p with
        | error e =>
          simp only [hp, hq, Except.bind] at h
          cases h
          simp [Mode.ofSize_of_advance hq] at hf
        | ok q =>
          simp only [hp, hq, Except.bind, draw] at h
          split at h
          · assumption
          · cases h

/-- Nor is a path without points. -/
theorem ofSize_of_finish {pen : Pen} {f : Fault} (h : pen.finish = .error f) :
    f.ofSize = false := by
  unfold finish at h
  split at h <;> cases h
  rfl

/-- Nor is one that goes on behind its end. -/
theorem ofSize_of_close {pen : Pen} {rest : List (List Char)} {f : Fault}
    (h : pen.close rest = .error f) : f.ofSize = false := by
  unfold close at h
  split at h <;> cases h <;> rfl

end Pen

end NavScript.PathData
