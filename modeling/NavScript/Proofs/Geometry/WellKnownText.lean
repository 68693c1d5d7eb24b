import Mathlib.Data.List.Forall2
import NavScript.Geometry.WellKnownText
import NavScript.Proofs.Places

namespace NavScript.Geometry

open NavScript.Text (isMark isSeparator)

/-!
# Well-known text read back

A comma stands between vertices as it stands between polygons.  Still there is only one way to read
a `MULTIPOLYGON`: a number ends where the first separator stands, since it has none in itself, and a
list of vertices or of polygons ends at the bracket that stands where another item would begin.
What cannot be told from the text is how two numbers differ that are written alike.

* `Readable` — items that can be read off a text which goes on behind them
* `Readable.of_intercalate` — a list of them in brackets
* `readable_pair`, `readable_polygon` — vertices and polygons
* `multipolygon_eq_iff` — the lists of paths with the same text
-/

/-! ### Lists in brackets -/

/-- A text goes on with a comma or a bracket. -/
def Delimited (s : List Char) : Prop :=
  ∃ c rest, s = c :: rest ∧ isMark c = true

/-- Items can be read off a text: none begins with a closing bracket, and in front of a comma or a
    bracket the text of an item tells where it ends, and the item but for what `R` leaves open. -/
structure Readable {α : Type} (f : α → String) (R : α → α → Prop) : Prop where
  front : ∀ a, ∃ c rest, (f a).toList = c :: rest ∧ c ≠ ')'
  read : ∀ {a b : α} {s t : List Char}, Delimited s → Delimited t →
    (f a).toList ++ s = (f b).toList ++ t → R a b ∧ s = t

/-- What stands behind an item of a list in brackets: the other items, each behind a comma, the
    closing bracket, and what follows it. -/
def remainder {α : Type} (f : α → String) (s : List Char) : List α → List Char
  | [] => ')' :: s
  | a :: as => ',' :: ((f a).toList ++ remainder f s as)

section Lists

variable {α : Type} {f : α → String} {R : α → α → Prop} {s t : List Char}

/-- What is left of a list begins with a comma or a bracket. -/
theorem delimited_remainder (f : α → String) (s : List Char) (as : List α) :
    Delimited (remainder f s as) := by
  cases as with
  | nil => exact ⟨')', _, rfl, rfl⟩
  | cons a as => exact ⟨',', _, rfl, rfl⟩

/-- The text of a list is that of its first item and what is left. -/
theorem toList_intercalate_append (f : α → String) (s : List Char) (a : α) (as : List α) :
    (",".intercalate ((a :: as).map f)).toList ++ ')' :: s =
      (f a).toList ++ remainder f s as := by
  induction as generalizing a with
  | nil => simp [remainder]
  | cons b as ih =>
    have hrest := ih b
    rw [List.map_cons] at hrest
    rw [List.map_cons, List.map_cons, String.intercalate_cons_cons, String.toList_append,
      String.toList_append, List.append_assoc, List.append_assoc, hrest, remainder]
    rfl

/-- What is left of a list tells its items and what follows it. -/
theorem Readable.of_remainder (hf : Readable f R) {as bs : List α}
    (h : remainder f s as = remainder f t bs) : List.Forall₂ R as bs ∧ s = t := by
  induction as generalizing bs with
  | nil =>
    cases bs with
    | nil => exact ⟨.nil, (List.cons.inj h).2⟩
    | cons b bs => cases (List.cons.inj h).1
  | cons a as ih =>
    cases bs with
    | nil => cases (List.cons.inj h).1
    | cons b bs =>
      obtain ⟨hab, hrest⟩ := hf.read (delimited_remainder f s as) (delimited_remainder f t bs)
        (List.cons.inj h).2
      obtain ⟨hforall, hst⟩ := ih hrest
      exact ⟨.cons hab hforall, hst⟩

/-- A list in brackets can be read off a text, whatever stands behind it. -/
theorem Readable.of_intercalate (hf : Readable f R) {as bs : List α}
    (h : (",".intercalate (as.map f)).toList ++ ')' :: s =
      (",".intercalate (bs.map f)).toList ++ ')' :: t) : List.Forall₂ R as bs ∧ s = t := by
  cases as with
  | nil =>
    cases bs with
    | nil => exact ⟨.nil, by simpa using h⟩
    | cons b bs =>
      obtain ⟨c, rest, hfront, hc⟩ := hf.front b
      rw [toList_intercalate_append, hfront] at h
      exact absurd (List.cons.inj h).1.symm hc
  | cons a as =>
    rw [toList_intercalate_append] at h
    cases bs with
    | nil =>
      obtain ⟨c, rest, hfront, hc⟩ := hf.front a
      rw [hfront] at h
      exact absurd (List.cons.inj h).1 hc
    | cons b bs =>
      rw [toList_intercalate_append] at h
      obtain ⟨hab, hrest⟩ := hf.read (delimited_remainder f s as) (delimited_remainder f t bs) h
      obtain ⟨hforall, hst⟩ := hf.of_remainder hrest
      exact ⟨.cons hab hforall, hst⟩

end Lists

/-! ### Vertices and polygons -/

/-- Vertices that are written alike. -/
def SameText (places : Nat) (v w : Vertex) : Prop :=
  Decimal.fixed places v.x = Decimal.fixed places w.x ∧
    Decimal.fixed places v.y = Decimal.fixed places w.y

/-- A run without separators ends where the first separator stands. -/
theorem append_cons_inj_of_isSeparator {u v s t : List Char} {c d : Char}
    (hu : ∀ c ∈ u, isSeparator c = false) (hv : ∀ c ∈ v, isSeparator c = false)
    (hc : isSeparator c = true) (hd : isSeparator d = true) (h : u ++ c :: s = v ++ d :: t) :
    u = v ∧ c :: s = d :: t := by
  induction u generalizing v with
  | nil =>
    cases v with
    | nil => exact ⟨rfl, h⟩
    | cons b v =>
      have hb := hv b List.mem_cons_self
      rw [← (List.cons.inj h).1, hc] at hb
      cases hb
  | cons a u ih =>
    obtain ⟨ha, hu⟩ := List.forall_mem_cons.mp hu
    cases v with
    | nil =>
      rw [(List.cons.inj h).1, hd] at ha
      cases ha
    | cons b v =>
      obtain ⟨rfl, hrest⟩ := List.cons.inj h
      obtain ⟨rfl, hst⟩ := ih hu (List.forall_mem_cons.mp hv).2 hrest
      exact ⟨rfl, hst⟩

/-- A number ends where a separator stands. -/
theorem fixed_append_cons_inj {places : Nat} {x y : Float} {s t : List Char} {c d : Char}
    (hc : isSeparator c = true) (hd : isSeparator d = true)
    (h : (Decimal.fixed places x).toList ++ c :: s = (Decimal.fixed places y).toList ++ d :: t) :
    Decimal.fixed places x = Decimal.fixed places y ∧ c :: s = d :: t := by
  obtain ⟨htext, hst⟩ := append_cons_inj_of_isSeparator (fun _ => isSeparator_of_mem_fixed)
    (fun _ => isSeparator_of_mem_fixed) hc hd h
  exact ⟨String.toList_inj.mp htext, hst⟩

/-- The characters of a vertex. -/
theorem toList_pair (places : Nat) (v : Vertex) :
    (pair places v).toList =
      (Decimal.fixed places v.x).toList ++ ' ' :: (Decimal.fixed places v.y).toList := by
  simp [pair]

/-- Vertices in a list can be told apart. -/
theorem readable_pair (places : Nat) : Readable (pair places) (SameText places) where
  front v := by
    obtain ⟨hne, hseparator⟩ := isToken_fixed places v.x
    obtain ⟨c, rest, hx⟩ := List.exists_cons_of_ne_nil hne
    refine ⟨c, rest ++ ' ' :: (Decimal.fixed places v.y).toList, by rw [toList_pair, hx]; rfl, ?_⟩
    rintro rfl
    have hbracket := hseparator ')' (by rw [hx]; exact List.mem_cons_self)
    exact absurd hbracket (by decide)
  read := by
    rintro v w s t ⟨c, s, rfl, hc⟩ ⟨d, t, rfl, hd⟩ h
    rw [toList_pair, toList_pair, List.append_assoc, List.append_assoc, List.cons_append,
      List.cons_append] at h
    obtain ⟨hx, hrest⟩ := fixed_append_cons_inj (by decide) (by decide) h
    obtain ⟨hy, hst⟩ :=
      fixed_append_cons_inj (by simp [isSeparator, hc]) (by simp [isSeparator, hd])
      (List.cons.inj hrest).2
    exact ⟨⟨hx, hy⟩, hst⟩

/-- So can polygons, which are lists of vertices. -/
theorem readable_polygon (places : Nat) :
    Readable (polygon places) (List.Forall₂ (SameText places)) where
  front path := ⟨'(', _, by simp [polygon]; rfl, by decide⟩
  read := by
    intro path path' s t _ _ h
    have htext : ∀ (path : Path) (s : List Char), (polygon places path).toList ++ s =
        '(' :: '(' :: ((",".intercalate (path.map (pair places))).toList ++ ')' :: ')' :: s) := by
      intro path s
      simp [polygon]
    rw [htext, htext] at h
    obtain ⟨hpath, hrest⟩ :=
      (readable_pair places).of_intercalate (List.cons.inj (List.cons.inj h).2).2
    exact ⟨hpath, (List.cons.inj hrest).2⟩

theorem map_eq_of_forall₂ {α β : Type} {f : α → β} {R : α → α → Prop} {as bs : List α}
    (h : List.Forall₂ R as bs) (hf : ∀ a b, R a b → f a = f b) : as.map f = bs.map f := by
  rw [← List.forall₂_eq_eq_eq, List.forall₂_map_left_iff, List.forall₂_map_right_iff]
  exact h.imp hf

/-- Paths whose vertices are written alike are written alike. -/
theorem polygon_eq_of_sameText {places : Nat} {path path' : Path}
    (h : List.Forall₂ (SameText places) path path') :
    polygon places path = polygon places path' := by
  have hpair : ∀ v w, SameText places v w → pair places v = pair places w := fun v w hvw => by
    rw [pair, pair, hvw.1, hvw.2]
  rw [polygon, polygon, map_eq_of_forall₂ h hpair]

/-- **The lists of paths with the same text** are those of as many paths, each of as many vertices,
    whose coordinates are written alike: nothing but the digits that are left out of a number is
    lost in the text. -/
theorem multipolygon_eq_iff (places : Nat) (ps qs : List Path) :
    multipolygon places ps = multipolygon places qs ↔
      List.Forall₂ (List.Forall₂ fun v w =>
        Decimal.fixed places v.x = Decimal.fixed places w.x ∧
          Decimal.fixed places v.y = Decimal.fixed places w.y) ps qs := by
  constructor
  · intro h
    have htext : ∀ paths : List Path, (multipolygon places paths).toList =
        "MULTIPOLYGON(".toList ++
          ((",".intercalate (paths.map (polygon places))).toList ++ [')']) := by
      intro paths
      simp [multipolygon]
    have hchars := congrArg String.toList h
    rw [htext, htext] at hchars
    exact ((readable_polygon places).of_intercalate (List.append_cancel_left hchars)).1
  · intro h
    have hpaths : List.Forall₂ (List.Forall₂ (SameText places)) ps qs := h
    rw [multipolygon, multipolygon, map_eq_of_forall₂ hpaths fun _ _ => polygon_eq_of_sameText]

end NavScript.Geometry
