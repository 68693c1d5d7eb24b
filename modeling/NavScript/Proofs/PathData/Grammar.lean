import NavScript.Proofs.PathData.Pen

namespace NavScript.PathData

open NavScript.Geometry

/-!
# The grammar of path data

Path data is a sequence of operators and pairs of coordinates, which a close operator may end.  Its
points are those of the pairs, each absolute or relative to the point before it as the last operator
says.  The reader follows this grammar: as long as there is room for all points, it accepts what the
grammar describes, with the path described, and refuses everything else.

* `Item`, `Spells` — operators and pairs, and the tokens that spell them
* `trace` — the points of items, each with the mode that governs it
* `Described` — the path that tokens describe
* `pointsOfTokens_eq_ok_iff` — the loop accepts what carries its pen on
* `pointsOfTokens_start_iff` — from the start it accepts what spells proper items
* `path_eq_ok_iff` — what is accepted, and with which path
* `path_eq_ok_iff_described` — reading path data is reading its grammar
-/

/-! ### Items and their spelling -/

/-- A part of path data: an operator that sets the mode, or a pair of coordinates. -/
inductive Item where
  | operator (m : Mode)
  | pair (p : Point)

/-- The letters of the operator that sets a mode. -/
def Mode.letters : Mode → List Char
  | .absolute => ['M', 'L']
  | .relative => ['m', 'l']

/-- The letters of the close operator. -/
def closeLetters : List Char :=
  ['Z', 'z']

/-- The tokens that spell a sequence of items, and whether a close operator ends them. -/
inductive Spells : List (List Char) → List Item → Bool → Prop where
  | stop : Spells [] [] false
  | close {c : Char} (hc : c ∈ closeLetters) : Spells [[c]] [] true
  | operator {c : Char} {m : Mode} {tokens : List (List Char)} {items : List Item} {closed : Bool}
      (hc : c ∈ m.letters) (h : Spells tokens items closed) :
      Spells ([c] :: tokens) (.operator m :: items) closed
  | pair {x y : List Char} {p : Point} {tokens : List (List Char)} {items : List Item}
      {closed : Bool} (hx : Coordinate x p.x) (hy : Coordinate y p.y)
      (h : Spells tokens items closed) : Spells (x :: y :: tokens) (.pair p :: items) closed

/-- A token that is one of the operator letters. -/
def isLetterToken : List Char → Bool
  | [c] => isLetter c
  | _ => false

/-- The tokens that set a mode. -/
theorem Operator.ofToken?_eq_mode_iff (token : List Char) (m : Mode) :
    Operator.ofToken? token = some (.mode m) ↔ ∃ c ∈ m.letters, token = [c] := by
  unfold Operator.ofToken?
  split
  · rename_i c
    cases m <;> simp only [Mode.letters] <;> grind
  · rename_i h
    constructor
    · simp
    · rintro ⟨c, -, rfl⟩
      exact absurd rfl (h c)

/-- The tokens that close a path. -/
theorem Operator.ofToken?_eq_close_iff (token : List Char) :
    Operator.ofToken? token = some .close ↔ ∃ c ∈ closeLetters, token = [c] := by
  unfold Operator.ofToken? closeLetters
  split
  · rename_i c
    grind
  · rename_i h
    constructor
    · simp
    · rintro ⟨c, -, rfl⟩
      exact absurd rfl (h c)

/-- Those are all letters that have a meaning. -/
theorem Operator.isSome_ofToken? (token : List Char) :
    (Operator.ofToken? token).isSome = isLetterToken token := by
  match token with
  | [] => rfl
  | [c] =>
    simp only [ofToken?, isLetterToken, isLetter]
    grind
  | _ :: _ :: _ => rfl

/-- No letter of an operator is a numeral. -/
theorem Coordinate.ofToken?_eq_none {token : List Char} {x : Float} (h : Coordinate token x) :
    Operator.ofToken? token = none := by
  cases hop : Operator.ofToken? token with
  | none => rfl
  | some op =>
    have hnone : Decimal.readChars? token = none := by
      cases op with
      | mode m =>
        obtain ⟨c, hc, rfl⟩ := (Operator.ofToken?_eq_mode_iff token m).mp hop
        cases m <;> simp only [Mode.letters, List.mem_cons, List.not_mem_nil, or_false] at hc <;>
          rcases hc with rfl | rfl <;> decide
      | close =>
        obtain ⟨c, hc, rfl⟩ := (Operator.ofToken?_eq_close_iff token).mp hop
        simp only [closeLetters, List.mem_cons, List.not_mem_nil, or_false] at hc
        rcases hc with rfl | rfl <;> decide
    rw [h.1] at hnone
    cases hnone

/-- A letter that sets a mode is a letter with a meaning. -/
theorem Mode.isLetterToken_of_mem {m : Mode} {c : Char} (hc : c ∈ m.letters) :
    isLetterToken [c] = true := by
  rw [← Operator.isSome_ofToken?, (Operator.ofToken?_eq_mode_iff [c] m).mpr ⟨c, hc, rfl⟩]
  rfl

/-- So is one that closes a path. -/
theorem isLetterToken_of_mem_closeLetters {c : Char} (hc : c ∈ closeLetters) :
    isLetterToken [c] = true := by
  rw [← Operator.isSome_ofToken?, (Operator.ofToken?_eq_close_iff [c]).mpr ⟨c, hc, rfl⟩]
  rfl

/-- A coordinate is no such letter. -/
theorem Coordinate.isLetterToken_eq_false {token : List Char} {x : Float}
    (h : Coordinate token x) : isLetterToken token = false := by
  rw [← Operator.isSome_ofToken?, h.ofToken?_eq_none]
  rfl

/-! ### Reading the spelling back -/

/-- What begins with a mode. -/
theorem spells_mode_iff {token : List Char} {m : Mode}
    (hop : Operator.ofToken? token = some (.mode m))
    (tokens : List (List Char)) (items : List Item) (closed : Bool) :
    Spells (token :: tokens) items closed ↔
      ∃ rest, items = .operator m :: rest ∧ Spells tokens rest closed := by
  constructor
  · intro h
    cases h with
    | close hc =>
      have := (Operator.ofToken?_eq_close_iff _).mpr ⟨_, hc, rfl⟩
      simp [hop] at this
    | operator hc h =>
      have := (Operator.ofToken?_eq_mode_iff _ _).mpr ⟨_, hc, rfl⟩
      rw [hop, Option.some.injEq, Operator.mode.injEq] at this
      exact ⟨_, by rw [this], h⟩
    | pair hx hy h => simp [hx.ofToken?_eq_none] at hop
  · rintro ⟨rest, rfl, h⟩
    obtain ⟨c, hc, rfl⟩ := (Operator.ofToken?_eq_mode_iff token m).mp hop
    exact .operator hc h

/-- What begins with the letter that closes a path ends there. -/
theorem spells_close_iff {token : List Char} (hop : Operator.ofToken? token = some .close)
    (tokens : List (List Char)) (items : List Item) (closed : Bool) :
    Spells (token :: tokens) items closed ↔ tokens = [] ∧ items = [] ∧ closed = true := by
  constructor
  · intro h
    cases h with
    | close hc => exact ⟨rfl, rfl, rfl⟩
    | operator hc h =>
      have := (Operator.ofToken?_eq_mode_iff _ _).mpr ⟨_, hc, rfl⟩
      simp [hop] at this
    | pair hx hy h => simp [hx.ofToken?_eq_none] at hop
  · rintro ⟨rfl, rfl, rfl⟩
    obtain ⟨c, hc, rfl⟩ := (Operator.ofToken?_eq_close_iff token).mp hop
    exact .close hc

/-- What begins with two coordinates. -/
theorem spells_pair_iff {x : List Char} (hop : Operator.ofToken? x = none) (y : List Char)
    (tokens : List (List Char)) (items : List Item) (closed : Bool) :
    Spells (x :: y :: tokens) items closed ↔
      ∃ p rest, items = .pair p :: rest ∧ Coordinate x p.x ∧ Coordinate y p.y ∧
        Spells tokens rest closed := by
  constructor
  · intro h
    cases h with
    | operator hc h =>
      have := (Operator.ofToken?_eq_mode_iff _ _).mpr ⟨_, hc, rfl⟩
      simp [hop] at this
    | pair hx hy h => exact ⟨_, _, rfl, hx, hy, h⟩
  · rintro ⟨p, rest, rfl, hx, hy, h⟩
    exact .pair hx hy h

/-- A coordinate without a second spells nothing. -/
theorem not_spells_unpaired {x : List Char} (hop : Operator.ofToken? x = none) (items : List Item)
    (closed : Bool) : ¬ Spells [x] items closed := by
  intro h
  cases h with
  | close hc =>
    have := (Operator.ofToken?_eq_close_iff _).mpr ⟨_, hc, rfl⟩
    simp [hop] at this
  | operator hc h =>
    have := (Operator.ofToken?_eq_mode_iff _ _).mpr ⟨_, hc, rfl⟩
    simp [hop] at this

/-! ### Points -/

/-- The points of items read from the left, each with the mode that governs it. -/
def trace (m : Mode) (origin : Point) : List Item → List (Mode × Point)
  | [] => []
  | .operator m :: items => trace m origin items
  | .pair p :: items => (m, m.target origin p) :: trace m (m.target origin p) items

/-- A sequence with its first member once more at its end, if it is closed. -/
def repeated {α : Type} (closed : Bool) (ps : List α) : List α :=
  if closed then ps ++ ps.head?.toList else ps

/-- Points changed before the first is repeated or after. -/
theorem map_repeated {α β : Type} (f : α → β) (closed : Bool) (ps : List α) :
    (repeated closed ps).map f = repeated closed (ps.map f) := by
  cases closed <;> simp [repeated, Option.toList_map]

/-- Items that say where each of their points lies.  The mode and the running point that they are
    read with do not matter before the first operator. -/
structure Proper (items : List Item) : Prop where
  /-- An operator stands before the first pair. -/
  led : ∃ m rest, items = .operator m :: rest
  /-- There is a pair. -/
  inhabited : ∃ p, .pair p ∈ items
  /-- Relative pairs lead to points within bounds. -/
  bounded : ∀ q, (Mode.relative, q) ∈ trace .absolute ⟨0.0, 0.0⟩ items → Bounded q

/-- The path that tokens describe in the arena. -/
def Described (t : Transform) (tokens : List (List Char)) (path : Path) : Prop :=
  ∃ items closed, Spells tokens items closed ∧ Proper items ∧
    path = repeated closed (((trace .absolute ⟨0.0, 0.0⟩ items).map Prod.snd).map t.apply)

/-- There is a point in a trace exactly if there is a pair among the items. -/
theorem trace_ne_nil_iff (m : Mode) (origin : Point) (items : List Item) :
    trace m origin items ≠ [] ↔ ∃ p, .pair p ∈ items := by
  induction items generalizing m origin with
  | nil => simp [trace]
  | cons item items ih =>
    cases item with
    | operator m => simp [trace, ih]
    | pair p => simp [trace]

/-- Every pair is spelled by two tokens that are no letters, everything else by letters. -/
theorem Spells.countP_eq {tokens : List (List Char)} {items : List Item} {closed : Bool}
    (h : Spells tokens items closed) (m : Mode) (origin : Point) :
    tokens.countP (!isLetterToken ·) = 2 * (trace m origin items).length := by
  induction h generalizing m origin with
  | stop => rfl
  | close hc => simp [trace, isLetterToken_of_mem_closeLetters hc]
  | operator hc h ih =>
    rw [List.countP_cons_of_neg (by simp [Mode.isLetterToken_of_mem hc]), trace, ih]
  | @pair x y p _ _ _ hx hy h ih =>
    simp only [trace, List.countP_cons, hx.isLetterToken_eq_false, hy.isLetterToken_eq_false,
      Bool.not_false, if_true, List.length_cons, ih m (m.target origin p)]
    omega

/-! ### The loop -/

/-- Items carry a pen in mode `m` on to the points `ps`: all points lie within bounds, there is room
    for them, and there is at least one. -/
structure Carries (pen : Pen) (m : Mode) (items : List Item) (closed : Bool) (ps : List Point) :
    Prop where
  bounded : ∀ q, (Mode.relative, q) ∈ trace m pen.position items → Bounded q
  room : pen.count + (trace m pen.position items).length ≤ pointLimit
  inhabited : pen.drawn.reverse ++ (trace m pen.position items).map Prod.snd ≠ []
  points : ps = repeated closed (pen.drawn.reverse ++ (trace m pen.position items).map Prod.snd)

/-- The pen takes a mode. -/
theorem pointsOfTokens_mode {token : List Char} {m : Mode}
    (hop : Operator.ofToken? token = some (.mode m)) (pen : Pen) (rest : List (List Char)) :
    pointsOfTokens pen (token :: rest) = pointsOfTokens { pen with mode := some m } rest := by
  rw [pointsOfTokens.eq_def]
  simp only [hop]

/-- The pen closes a path. -/
theorem pointsOfTokens_close {token : List Char} (hop : Operator.ofToken? token = some .close)
    (pen : Pen) (rest : List (List Char)) :
    pointsOfTokens pen (token :: rest) = pen.close rest := by
  rw [pointsOfTokens.eq_def]
  simp only [hop]

/-- With nothing ahead, a pen that has drawn something has all of its points. -/
theorem carries_nil_iff {pen : Pen} (hc : pen.count ≤ pointLimit) (m : Mode) (closed : Bool)
    (ps : List Point) :
    Carries pen m [] closed ps ↔
      pen.drawn.reverse ≠ [] ∧ ps = repeated closed pen.drawn.reverse := by
  constructor
  · intro h
    exact ⟨by simpa [trace] using h.inhabited, by simpa [trace] using h.points⟩
  · rintro ⟨hne, rfl⟩
    exact ⟨by simp [trace], by simpa [trace] using hc, by simpa [trace] using hne, by simp [trace]⟩

/-- A mode ahead. -/
theorem carries_operator_iff (pen : Pen) (m m' : Mode) (items : List Item) (closed : Bool)
    (ps : List Point) :
    Carries pen m (.operator m' :: items) closed ps ↔
      Carries { pen with mode := some m' } m' items closed ps :=
  ⟨fun ⟨hb, hr, hi, hp⟩ => ⟨hb, hr, hi, hp⟩, fun ⟨hb, hr, hi, hp⟩ => ⟨hb, hr, hi, hp⟩⟩

/-- A pair ahead: it is drawn if it is in bounds and there is room for it. -/
theorem carries_pair_iff (pen : Pen) (m : Mode) (p : Point) (items : List Item) (closed : Bool)
    (ps : List Point) :
    Carries pen m (.pair p :: items) closed ps ↔
      (m = .relative → Bounded (m.target pen.position p)) ∧ pen.count < pointLimit ∧
        Carries (pen.drawnTo (m.target pen.position p)) m items closed ps := by
  have hpoints : (pen.drawnTo (m.target pen.position p)).drawn.reverse
        ++ (trace m (m.target pen.position p) items).map Prod.snd
      = pen.drawn.reverse ++ (trace m pen.position (.pair p :: items)).map Prod.snd := by
    simp [trace]
  constructor
  · intro h
    have hroom := h.room
    simp only [trace, List.length_cons] at hroom
    refine ⟨?_, by omega, ?_, ?_, ?_, ?_⟩
    · rintro rfl
      exact h.bounded _ (by simp [trace])
    · intro q hq
      exact h.bounded q (List.mem_cons_of_mem _ hq)
    · simp only [Pen.drawnTo_count, Pen.drawnTo_position]
      omega
    · rw [Pen.drawnTo_position, hpoints]
      exact h.inhabited
    · rw [Pen.drawnTo_position, hpoints]
      exact h.points
  · rintro ⟨hb, hc, h⟩
    have hroom := h.room
    simp only [Pen.drawnTo_count, Pen.drawnTo_position] at hroom
    refine ⟨?_, ?_, ?_, ?_⟩
    · intro q hq
      rcases List.mem_cons.mp hq with heq | hq
      · obtain ⟨rfl, rfl⟩ := Prod.mk.inj heq
        exact hb rfl
      · exact h.bounded q hq
    · simp only [trace, List.length_cons]
      omega
    · rw [← hpoints]
      exact h.inhabited
    · rw [← hpoints]
      exact h.points

/-- The loop accepts exactly the tokens whose items carry the pen on, and gives the points that they
    carry it to. -/
theorem pointsOfTokens_eq_ok_iff (pen : Pen) {m : Mode} (hm : pen.mode = some m)
    (hc : pen.count ≤ pointLimit) (tokens : List (List Char)) (ps : List Point) :
    pointsOfTokens pen tokens = .ok ps ↔
      ∃ items closed, Spells tokens items closed ∧ Carries pen m items closed ps := by
  fun_induction pointsOfTokens pen tokens generalizing m with
  | case1 pen =>
    rw [Pen.finish_eq_ok_iff]
    constructor
    · intro h
      exact ⟨[], false, .stop, (carries_nil_iff hc m false ps).mpr (by simpa [repeated] using h)⟩
    · rintro ⟨items, closed, hs, h⟩
      cases hs
      simpa [repeated] using (carries_nil_iff hc m false ps).mp h
  | case2 pen token rest m' hop ih =>
    rw [ih rfl hc]
    constructor
    · rintro ⟨items, closed, hs, h⟩
      exact ⟨.operator m' :: items, closed, (spells_mode_iff hop _ _ _).mpr ⟨items, rfl, hs⟩,
        (carries_operator_iff pen m m' items closed ps).mpr h⟩
    · rintro ⟨items, closed, hs, h⟩
      obtain ⟨items', rfl, hs'⟩ := (spells_mode_iff hop _ _ _).mp hs
      exact ⟨items', closed, hs', (carries_operator_iff pen m m' items' closed ps).mp h⟩
  | case3 pen token rest hop =>
    rw [Pen.close_eq_ok_iff]
    constructor
    · rintro ⟨rfl, h⟩
      exact ⟨[], true, (spells_close_iff hop _ _ _).mpr ⟨rfl, rfl, rfl⟩,
        (carries_nil_iff hc m true ps).mpr (by simpa [repeated] using h)⟩
    · rintro ⟨items, closed, hs, h⟩
      obtain ⟨rfl, rfl, rfl⟩ := (spells_close_iff hop _ _ _).mp hs
      exact ⟨rfl, by simpa [repeated] using (carries_nil_iff hc m true ps).mp h⟩
  | case4 pen token hop pen' hd => exact absurd hd (Pen.drawPair_none_ne_ok pen pen' token)
  | case5 pen token hop e hd =>
    constructor
    · intro h
      cases h
    · rintro ⟨items, closed, hs, -⟩
      exact absurd hs (not_spells_unpaired hop items closed)
  | case6 pen token hop y rest pen' hd ih =>
    obtain ⟨m', p, hm', hx, hy, hb, hroom, rfl⟩ := (Pen.drawPair_eq_ok_iff pen pen' token y).mp hd
    obtain rfl : m = m' := by simpa [hm] using hm'
    rw [ih (by simpa using hm) (by simpa [Nat.succ_le_iff] using hroom)]
    constructor
    · rintro ⟨items, closed, hs, h⟩
      exact ⟨.pair p :: items, closed,
        (spells_pair_iff hop y rest _ _).mpr ⟨p, items, rfl, hx, hy, hs⟩,
        (carries_pair_iff pen m p items closed ps).mpr ⟨hb, hroom, h⟩⟩
    · rintro ⟨items, closed, hs, h⟩
      obtain ⟨p', items', rfl, hx', hy', hs'⟩ := (spells_pair_iff hop y rest _ _).mp hs
      obtain rfl : p = p' := hx.eq_of_pair hy hx' hy'
      exact ⟨items', closed, hs', ((carries_pair_iff pen m p items' closed ps).mp h).2.2⟩
  | case7 pen token hop y rest e hd =>
    constructor
    · intro h
      cases h
    · rintro ⟨items, closed, hs, h⟩
      obtain ⟨p, items, rfl, hx, hy, hs⟩ := (spells_pair_iff hop y rest _ _).mp hs
      obtain ⟨hb, hroom, -⟩ := (carries_pair_iff pen m p items closed ps).mp h
      have := (Pen.drawPair_eq_ok_iff pen _ token y).mpr ⟨m, p, hm, hx, hy, hb, hroom, rfl⟩
      rw [this] at hd
      cases hd

/-- A text that the loop refuses for its size spells at least as many pairs as there is room for. -/
theorem countP_of_ofSize {pen : Pen} {tokens : List (List Char)} {f : Fault}
    (h : pointsOfTokens pen tokens = .error f) (hf : f.ofSize = true) :
    2 * pointLimit ≤ 2 * pen.count + tokens.countP (!isLetterToken ·) := by
  fun_induction pointsOfTokens pen tokens with
  | case1 pen => simp [Pen.ofSize_of_finish h] at hf
  | case2 pen token rest m hop ih =>
    have := ih h
    simp only [List.countP_cons] at this ⊢
    omega
  | case3 pen token rest hop => simp [Pen.ofSize_of_close h] at hf
  | case4 pen token hop pen' hd => exact absurd hd (Pen.drawPair_none_ne_ok pen pen' token)
  | case5 pen token hop e hd =>
    cases h
    have := Pen.full_of_drawPair hd hf
    omega
  | case6 pen token hop y rest pen' hd ih =>
    obtain ⟨m, p, -, hx, hy, -, -, rfl⟩ := (Pen.drawPair_eq_ok_iff pen pen' token y).mp hd
    have := ih h
    simp only [Pen.drawnTo_count] at this
    simp only [List.countP_cons, hx.isLetterToken_eq_false, hy.isLetterToken_eq_false,
      Bool.not_false, if_true]
    omega
  | case7 pen token hop y rest e hd =>
    cases h
    have := Pen.full_of_drawPair hd hf
    omega

/-! ### Path data -/

/-- A pen that has met only its first operator is carried on by what may follow that operator. -/
theorem carries_start_iff (m : Mode) (items : List Item) (closed : Bool) (ps : List Point) :
    Carries { Pen.start with mode := some m } m items closed ps ↔
      Proper (.operator m :: items) ∧ (trace m ⟨0.0, 0.0⟩ items).length ≤ pointLimit ∧
        ps = repeated closed ((trace m ⟨0.0, 0.0⟩ items).map Prod.snd) := by
  constructor
  · intro h
    have hne : trace m ⟨0.0, 0.0⟩ items ≠ [] := by simpa [Pen.start] using h.inhabited
    refine ⟨⟨⟨m, items, rfl⟩, ?_, h.bounded⟩, by simpa [Pen.start] using h.room,
      by simpa [Pen.start] using h.points⟩
    exact (trace_ne_nil_iff .absolute ⟨0.0, 0.0⟩ _).mp hne
  · rintro ⟨h, hroom, rfl⟩
    have hne := (trace_ne_nil_iff .absolute ⟨0.0, 0.0⟩ _).mpr h.inhabited
    exact ⟨h.bounded, by simpa [Pen.start] using hroom, by simpa [Pen.start, trace] using hne,
      by simp [Pen.start]⟩

/-- From the start, the loop accepts exactly what spells proper items with room for their points. -/
theorem pointsOfTokens_start_iff (tokens : List (List Char)) (ps : List Point) :
    pointsOfTokens .start tokens = .ok ps ↔
      ∃ items closed, Spells tokens items closed ∧ Proper items ∧
        (trace .absolute ⟨0.0, 0.0⟩ items).length ≤ pointLimit ∧
        ps = repeated closed ((trace .absolute ⟨0.0, 0.0⟩ items).map Prod.snd) := by
  cases tokens with
  | nil =>
    constructor
    · intro h
      cases h
    · rintro ⟨items, closed, hs, ⟨⟨m, rest, rfl⟩, -, -⟩, -⟩
      cases hs
  | cons token rest =>
    cases hop : Operator.ofToken? token with
    | none =>
      have hl : ¬ ∃ ps, pointsOfTokens .start (token :: rest) = .ok ps := by
        cases rest <;> simp [pointsOfTokens, hop, Pen.drawPair, Pen.start]
      constructor
      · intro h
        exact absurd ⟨ps, h⟩ hl
      · rintro ⟨items, closed, hs, ⟨⟨m, rest, rfl⟩, -, -⟩, -⟩
        cases hs with
        | operator hc h =>
          have := (Operator.ofToken?_eq_mode_iff _ _).mpr ⟨_, hc, rfl⟩
          simp [hop] at this
    | some op =>
      cases op with
      | close =>
        constructor
        · intro h
          rw [pointsOfTokens_close hop] at h
          exact absurd rfl ((Pen.close_eq_ok_iff _ _ _).mp h).2.1
        · rintro ⟨items, closed, hs, ⟨⟨m, rest, rfl⟩, -, -⟩, -⟩
          obtain ⟨-, h, -⟩ := (spells_close_iff hop _ _ _).mp hs
          cases h
      | mode m =>
        have hloop := pointsOfTokens_eq_ok_iff { Pen.start with mode := some m } rfl
          (Nat.zero_le _) rest ps
        rw [pointsOfTokens_mode hop, hloop]
        constructor
        · rintro ⟨items, closed, hs, h⟩
          exact ⟨.operator m :: items, closed,
            (spells_mode_iff hop rest _ closed).mpr ⟨items, rfl, hs⟩,
            (carries_start_iff m items closed ps).mp h⟩
        · rintro ⟨items, closed, hs, h⟩
          obtain ⟨items', rfl, hs'⟩ := (spells_mode_iff hop rest items closed).mp hs
          exact ⟨items', closed, hs', (carries_start_iff m items' closed ps).mpr h⟩

/-- Tokens with fewer numbers than twice the point limit leave room for all points. -/
theorem pointsOfTokens_start_eq_ok_iff {tokens : List (List Char)}
    (hn : tokens.countP (!isLetterToken ·) < 2 * pointLimit) (ps : List Point) :
    pointsOfTokens .start tokens = .ok ps ↔
      ∃ items closed, Spells tokens items closed ∧ Proper items ∧
        ps = repeated closed ((trace .absolute ⟨0.0, 0.0⟩ items).map Prod.snd) := by
  rw [pointsOfTokens_start_iff]
  constructor
  · rintro ⟨items, closed, hs, hp, -, h⟩
    exact ⟨items, closed, hs, hp, h⟩
  · rintro ⟨items, closed, hs, hp, h⟩
    have := hs.countP_eq .absolute ⟨0.0, 0.0⟩
    exact ⟨items, closed, hs, hp, by omega, h⟩

/-- Path data is accepted exactly if it keeps to the byte limit and spells proper items with room
    for their points. -/
theorem path_eq_ok_iff (d : String) (t : Transform) (p : Path) :
    path d t = .ok p ↔
      d.utf8ByteSize ≤ byteLimit ∧ ∃ items closed, Spells (tokens d.toList) items closed ∧
        Proper items ∧ (trace .absolute ⟨0.0, 0.0⟩ items).length ≤ pointLimit ∧
        p = repeated closed (((trace .absolute ⟨0.0, 0.0⟩ items).map Prod.snd).map t.apply) := by
  rw [path, points]
  split
  · rename_i hd
    constructor
    · intro h
      cases h
    · rintro ⟨hd', -⟩
      omega
  · rename_i hd
    rw [and_iff_right (Nat.not_lt.mp hd)]
    constructor
    · intro h
      cases hps : pointsOfTokens .start (tokens d.toList) with
      | error e => simp [hps, Except.map] at h
      | ok ps =>
        obtain ⟨items, closed, hs, hp, hroom, rfl⟩ := (pointsOfTokens_start_iff _ ps).mp hps
        simp only [hps, Except.map, Except.ok.injEq] at h
        exact ⟨items, closed, hs, hp, hroom, by rw [← h, Transform.applyAll, map_repeated]⟩
    · rintro ⟨items, closed, hs, hp, hroom, rfl⟩
      rw [(pointsOfTokens_start_iff _ _).mpr ⟨items, closed, hs, hp, hroom, rfl⟩]
      simp [Except.map, Transform.applyAll, map_repeated]

/-- **Reading path data is reading its grammar.**  A text within the byte limit that has fewer
    numbers than twice the point limit is read as the path that its tokens describe; where they
    describe none it is refused, and not for its size. -/
theorem path_eq_ok_iff_described (d : String) (t : Transform) (hd : d.utf8ByteSize ≤ byteLimit)
    (hn : (Text.words (normalize d.toList)).countP (!isLetterToken ·) < 2 * pointLimit) :
    (∀ p, path d t = .ok p ↔ Described t (Text.words (normalize d.toList)) p) ∧
      ((¬ ∃ p, Described t (Text.words (normalize d.toList)) p) →
        ∃ fault, path d t = .error fault ∧ fault.ofSize = false) := by
  have hpath : path d t =
      (pointsOfTokens .start (Text.words (normalize d.toList))).map t.applyAll := by
    rw [path, points, if_neg (Nat.not_lt.mpr hd), tokens_eq]
  have hiff : ∀ p, path d t = .ok p ↔ Described t (Text.words (normalize d.toList)) p := by
    intro p
    rw [hpath]
    constructor
    · intro h
      cases hps : pointsOfTokens .start (Text.words (normalize d.toList)) with
      | error e => simp [hps, Except.map] at h
      | ok ps =>
        obtain ⟨items, closed, hs, hp, rfl⟩ := (pointsOfTokens_start_eq_ok_iff hn ps).mp hps
        simp only [hps, Except.map, Except.ok.injEq] at h
        exact ⟨items, closed, hs, hp, by rw [← h, Transform.applyAll, map_repeated]⟩
    · rintro ⟨items, closed, hs, hp, rfl⟩
      rw [(pointsOfTokens_start_eq_ok_iff hn _).mpr ⟨items, closed, hs, hp, rfl⟩]
      simp [Except.map, Transform.applyAll, map_repeated]
  refine ⟨hiff, fun hnone => ?_⟩
  cases hps : pointsOfTokens .start (Text.words (normalize d.toList)) with
  | ok ps => exact absurd ⟨_, (hiff (t.applyAll ps)).mp (by rw [hpath, hps]; rfl)⟩ hnone
  | error f =>
    refine ⟨f, by rw [hpath, hps]; rfl, ?_⟩
    cases hf : f.ofSize with
    | false => rfl
    | true =>
      have := countP_of_ofSize hps hf
      simp only [Pen.start] at this
      omega

/-- Commas, letters that touch numbers, a pair without an operator of its own, and both modes. -/
theorem path_of_mixed_modes :
    "m1,1 2 2L5 5z".utf8ByteSize ≤ byteLimit ∧
      (Text.words (normalize "m1,1 2 2L5 5z".toList)).countP (!isLetterToken ·) < 2 * pointLimit ∧
      ∀ t, path "m1,1 2 2L5 5z" t =
        .ok ([⟨1.0, 1.0⟩, ⟨3.0, 3.0⟩, ⟨5.0, 5.0⟩, ⟨1.0, 1.0⟩].map t.apply) := by
  have hd : "m1,1 2 2L5 5z".utf8ByteSize ≤ byteLimit := by decide
  have hn : (Text.words (normalize "m1,1 2 2L5 5z".toList)).countP (!isLetterToken ·)
      < 2 * pointLimit := by decide
  refine ⟨hd, hn, fun t => ((path_eq_ok_iff_described _ t hd hn).1 _).mpr ?_⟩
  have h1 : Coordinate ['1'] 1.0 := ⟨by decide +kernel, by decide +kernel⟩
  have h2 : Coordinate ['2'] 2.0 := ⟨by decide +kernel, by decide +kernel⟩
  have h5 : Coordinate ['5'] 5.0 := ⟨by decide +kernel, by decide +kernel⟩
  have hwords : Text.words (normalize "m1,1 2 2L5 5z".toList) =
      [['m'], ['1'], ['1'], ['2'], ['2'], ['L'], ['5'], ['5'], ['z']] := by decide
  rw [hwords]
  refine ⟨[.operator .relative, .pair ⟨1.0, 1.0⟩, .pair ⟨2.0, 2.0⟩, .operator .absolute,
    .pair ⟨5.0, 5.0⟩], true, ?_, ⟨⟨_, _, rfl⟩, ⟨⟨1.0, 1.0⟩, by simp⟩, ?_⟩, ?_⟩
  · exact .operator (by decide) (.pair h1 h1 (.pair h2 h2 (.operator (by decide)
      (.pair h5 h5 (.close (by decide))))))
  · intro q hq
    simp only [trace, Mode.target, List.mem_cons, Prod.mk.injEq, true_and, reduceCtorEq, false_and,
      List.not_mem_nil, or_false] at hq
    rcases hq with rfl | rfl
    · exact ⟨by decide +kernel, by decide +kernel⟩
    · exact ⟨by decide +kernel, by decide +kernel⟩
  · have h10 : (1.0 : Float) + 0.0 = 1.0 := by decide +kernel
    have h21 : (2.0 : Float) + 1.0 = 3.0 := by decide +kernel
    simp [trace, Mode.target, repeated, h10, h21]

end NavScript.PathData
