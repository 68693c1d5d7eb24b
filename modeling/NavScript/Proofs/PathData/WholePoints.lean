import NavScript.Proofs.Binary64.Whole
import NavScript.Proofs.Decimal.Whole
import NavScript.Proofs.PathData.Grammar
import NavScript.Proofs.PathData.Separators

namespace NavScript.PathData

open NavScript.Geometry

/-!
# Whole points

A point can be written as it is or as its difference from the point before it, behind an operator
or, where the mode stays what it was, without one.  If its coordinates are whole, no digit is lost
on the way, whichever way is chosen: the running point is the point that has been written, and the
path is that of the points.

* `WholePoint` — a point with whole coordinates
* `Mode.target_offset` — the running point after a difference
* `Written` — the texts of a sequence of points
* `Written.exists_items` — the points of such a text
* `path_of_written` — its path
-/

/-! ### Points -/

/-- A point with whole coordinates. -/
structure WholePoint where
  x : Int
  y : Int
  deriving DecidableEq

/-- The greatest absolute value of a coordinate, as a whole number (`coordinateLimit_eq`). -/
def wholeLimit : Nat := 10000000

namespace WholePoint

/-- The difference of two points. -/
instance : Sub WholePoint := ⟨fun p q => ⟨p.x - q.x, p.y - q.y⟩⟩

/-- Where the pen starts. -/
def origin : WholePoint := ⟨0, 0⟩

/-- The point in binary64 numbers. -/
def toPoint (p : WholePoint) : Point := ⟨Float.ofInt p.x, Float.ofInt p.y⟩

/-- Both coordinates lie within bounds. -/
def Near (p : WholePoint) : Prop :=
  p.x.natAbs ≤ wholeLimit ∧ p.y.natAbs ≤ wholeLimit

instance (p : WholePoint) : Decidable p.Near :=
  inferInstanceAs (Decidable (_ ∧ _))

@[simp] theorem sub_x (p q : WholePoint) : (p - q).x = p.x - q.x := rfl
@[simp] theorem sub_y (p q : WholePoint) : (p - q).y = p.y - q.y := rfl

/-- The origin is near enough. -/
theorem origin_near : origin.Near := by decide

/-- It is the origin of paths. -/
theorem toPoint_origin : origin.toPoint = ⟨0.0, 0.0⟩ := by
  have hzero : Float.ofInt 0 = 0.0 := by decide +kernel
  rw [toPoint, origin, hzero]

end WholePoint

/-- The limit for coordinates is a whole number. -/
theorem coordinateLimit_eq : coordinateLimit = Float.ofInt wholeLimit := by decide +kernel

/-- Whole numbers up to it are in bounds. -/
theorem inBounds_ofInt {n : Int} (h : n.natAbs ≤ wholeLimit) : inBounds (Float.ofInt n) = true := by
  have hlow : -coordinateLimit = Float.ofInt (-wholeLimit) := by decide +kernel
  have hlimit : wholeLimit < 2 ^ 53 := by decide
  simp only [inBounds, Bool.and_eq_true, decide_eq_true_eq]
  rw [hlow, coordinateLimit_eq]
  refine ⟨⟨(Binary64.value_ofInt (by omega)).1, ?_⟩, ?_⟩
  · exact Binary64.ofInt_le_ofInt (by omega) (by omega) (by omega)
  · exact Binary64.ofInt_le_ofInt (by omega) (by omega) (by omega)

/-- So are points with such coordinates. -/
theorem WholePoint.Near.bounded {p : WholePoint} (h : p.Near) : Bounded p.toPoint :=
  ⟨inBounds_ofInt h.1, inBounds_ofInt h.2⟩

/-- The numbers that are written for a point. -/
def Mode.offset : Mode → WholePoint → WholePoint → WholePoint
  | .absolute, _, p => p
  | .relative, o, p => p - o

/-- **No digit is lost**: the numbers that are written for a point lead to this point. -/
theorem Mode.target_offset (m : Mode) {o p : WholePoint} (ho : o.Near) (hp : p.Near) :
    m.target o.toPoint (m.offset o p).toPoint = p.toPoint := by
  cases m with
  | absolute => rfl
  | relative =>
    have hsum : ∀ {a b : Int}, a.natAbs ≤ wholeLimit → b.natAbs ≤ wholeLimit →
        Float.ofInt (b - a) + Float.ofInt a = Float.ofInt b := by
      intro a b ha hb
      unfold wholeLimit at ha hb
      rw [Binary64.ofInt_add (by omega) (by omega) (by omega), sub_add_cancel]
    simp only [target, offset, WholePoint.toPoint, WholePoint.sub_x, WholePoint.sub_y,
      hsum ho.1 hp.1, hsum ho.2 hp.2]

/-- What is written for a step between such points is near, too. -/
theorem Mode.offset_near (m : Mode) {o p : WholePoint} (hp : p.Near) (hstep : (p - o).Near) :
    (m.offset o p).Near := by
  cases m with
  | absolute => exact hp
  | relative => exact hstep

/-! ### Decimals as tokens -/

/-- The characters of a decimal neither separate tokens nor are tokens of their own. -/
theorem isPlain_of_isDigit {c : Char} (h : c.isDigit = true ∨ c = '-' ∨ c = '+') :
    isPlain c = true := by
  rcases h with h | rfl | rfl
  · have hcomma : c ≠ ',' := by
      rintro rfl
      exact absurd h (by decide)
    have hletter : isLetter c = false := by
      rw [Bool.eq_false_iff]
      intro hl
      rw [eq_false_of_isLetter (f := Char.isDigit) (by decide) hl] at h
      cases h
    exact isPlain_iff.mpr ⟨hcomma, Text.isBlank_of_isDigit h, hletter⟩
  · decide
  · decide

/-- A decimal is one token. -/
theorem tokens_of_isWhole {n : Int} {w : List Char} (h : Decimal.IsWhole n w) : tokens w = [w] :=
  tokens_of_isRun ⟨Decimal.ne_nil_of_isWhole h, fun _ hc =>
    isPlain_of_isDigit (Decimal.mem_of_isWhole h hc)⟩

/-- A whole number is read as itself. -/
theorem coordinate_of_isWhole {n : Int} {w : List Char} (h : Decimal.IsWhole n w)
    (hn : n.natAbs ≤ wholeLimit) : Coordinate w (Float.ofInt n) := by
  have hlength : (Decimal.digits n.natAbs).length ≤ 8 :=
    (Nat.length_toDigits_le_iff (by decide) (by decide)).mpr (hn.trans_lt (by decide))
  exact ⟨Decimal.readChars?_of_isWhole h (hlength.trans (by decide)), inBounds_ofInt hn⟩

/-- The texts of the two numbers of a pair. -/
def IsPair (p : WholePoint) (w : List Char) : Prop :=
  ∃ x s y, Decimal.IsWhole p.x x ∧ IsGap s ∧ s ≠ [] ∧ Decimal.IsWhole p.y y ∧ w = x ++ s ++ y

/-- A pair of them spells the point. -/
theorem IsPair.spells {p : WholePoint} {w : List Char} (h : IsPair p w) (hp : p.Near)
    {rest : List (List Char)} {items : List Item} {closed : Bool}
    (hrest : Spells rest items closed) :
    Spells (tokens w ++ rest) (.pair p.toPoint :: items) closed := by
  obtain ⟨x, s, y, hx, hs, hne, hy, rfl⟩ := h
  rw [tokens_append_gap hs (.inl hne), tokens_of_isWhole hx, tokens_of_isWhole hy]
  exact .pair (coordinate_of_isWhole hx hp.1) (coordinate_of_isWhole hy hp.2) hrest

/-! ### Sequences of points -/

/-- The texts of points that are drawn one after the other from `o` in the mode `k`, if one is
    known: in front of each there is an operator, or a gap if the mode of the point before is
    kept. -/
inductive Written : Option Mode → WholePoint → List WholePoint → List Char → Prop where
  | stop {k : Option Mode} {o : WholePoint} {s : List Char} (hs : IsGap s) : Written k o [] s
  | named {k : Option Mode} {m : Mode} {o p : WholePoint} {ps : List WholePoint} {c : Char}
      {s t w rest : List Char} (hs : IsGap s) (hc : c ∈ m.letters) (ht : IsGap t)
      (hw : IsPair (m.offset o p) w) (h : Written (some m) p ps rest) :
      Written k o (p :: ps) (s ++ c :: (t ++ (w ++ rest)))
  | unnamed {m : Mode} {o p : WholePoint} {ps : List WholePoint} {s w rest : List Char}
      (hs : IsGap s) (hne : s ≠ []) (hw : IsPair (m.offset o p) w)
      (h : Written (some m) p ps rest) :
      Written (some m) o (p :: ps) (s ++ (w ++ rest))

/-! ### Their tokens -/

/-- Points are set apart from whatever stands in front of them. -/
theorem Written.tokens_append {k : Option Mode} {o : WholePoint} {ps : List WholePoint}
    {text : List Char} (h : Written k o ps text) (a : List Char) :
    tokens (a ++ text) = tokens a ++ tokens text := by
  cases h with
  | @stop _ _ s hs => simpa using tokens_append_gap_append hs (.inr (.atBack a))
  | named hs hc ht hw h =>
    exact tokens_append_gap_append hs (.inr (.beforeLetter (Mode.isLetterToken_of_mem hc) a _))
  | unnamed hs hne hw h => exact tokens_append_gap_append hs (.inl hne)

/-- **A text of points** spells items which, read in its mode and from where it begins, have these
    points. -/
theorem Written.exists_items {k : Option Mode} {o : WholePoint} {ps : List WholePoint}
    {text : List Char} (h : Written k o ps text) (ho : o.Near) (hnear : ∀ p ∈ ps, p.Near)
    (hsteps : (o :: ps).IsChain fun q p => (p - q).Near) :
    ∃ items, Spells (tokens text) items false ∧
      (∀ m, k = none ∨ k = some m →
        (trace m o.toPoint items).map Prod.snd = ps.map WholePoint.toPoint) ∧
      (k = none → ps ≠ [] → ∃ m rest, items = .operator m :: rest) := by
  -- on the text: from a point it goes on in the mode and from the place that its numbers lead to
  induction h with
  | @stop k o s hs =>
    have htokens : tokens s = [] := by simpa using tokens_gap_append hs []
    exact ⟨[], htokens ▸ .stop, fun _ _ => rfl, fun _ hne => absurd rfl hne⟩
  | @named k m o p ps c s t w rest hs hc ht hw h ih =>
    obtain ⟨hp, hnear⟩ := List.forall_mem_cons.mp hnear
    obtain ⟨hstep, hsteps⟩ := List.isChain_cons_cons.mp hsteps
    obtain ⟨items, hspells, htrace, -⟩ := ih hp hnear hsteps
    refine ⟨.operator m :: .pair (m.offset o p).toPoint :: items, ?_, fun m' _ => ?_, ?_⟩
    · rw [tokens_gap_append hs, tokens_letter_cons (Mode.isLetterToken_of_mem hc),
        tokens_gap_append ht, h.tokens_append w]
      exact .operator hc (hw.spells (m.offset_near hp hstep) hspells)
    · rw [trace, trace, m.target_offset ho hp, List.map_cons, List.map_cons, htrace m (.inr rfl)]
    · exact fun _ _ => ⟨m, _, rfl⟩
  | @unnamed m o p ps s w rest hs hne hw h ih =>
    obtain ⟨hp, hnear⟩ := List.forall_mem_cons.mp hnear
    obtain ⟨hstep, hsteps⟩ := List.isChain_cons_cons.mp hsteps
    obtain ⟨items, hspells, htrace, -⟩ := ih hp hnear hsteps
    refine ⟨.pair (m.offset o p).toPoint :: items, ?_, fun m' hm' => ?_, ?_⟩
    · rw [tokens_gap_append hs, h.tokens_append w]
      exact hw.spells (m.offset_near hp hstep) hspells
    · obtain rfl : m = m' := by simpa using hm'
      rw [trace, m.target_offset ho hp, List.map_cons, List.map_cons, htrace m (.inr rfl)]
    · exact fun hk => absurd hk (Option.some_ne_none m)

/-- **The path of whole points** is the same however they are written, absolutely or relatively and
    with or without operators, as long as the points and their differences lie within bounds. -/
theorem path_of_written {d : String} {ps : List WholePoint} (hd : d.utf8ByteSize ≤ byteLimit)
    (hne : ps ≠ []) (hcount : ps.length ≤ pointLimit) (hnear : ∀ p ∈ ps, p.Near)
    (hsteps : (WholePoint.origin :: ps).IsChain fun q p => (p - q).Near)
    (h : Written none .origin ps d.toList) (t : Transform) :
    path d t = .ok (ps.map fun p => t.apply p.toPoint) := by
  obtain ⟨items, hspells, htrace, hled⟩ := h.exists_items WholePoint.origin_near hnear hsteps
  have hpoints := htrace .absolute (.inl rfl)
  rw [WholePoint.toPoint_origin] at hpoints
  have hlength : (trace .absolute ⟨0.0, 0.0⟩ items).length = ps.length := by
    simpa using congrArg List.length hpoints
  have hproper : Proper items := by
    refine ⟨hled rfl hne, ?_, fun q hq => ?_⟩
    · rw [← trace_ne_nil_iff .absolute ⟨0.0, 0.0⟩, ← List.length_pos_iff, hlength]
      exact List.length_pos_iff.mpr hne
    · -- relative or not, the points of the items are the points written, which are near
      have hmem := List.mem_map_of_mem (f := Prod.snd) hq
      rw [hpoints] at hmem
      obtain ⟨p, hp, rfl⟩ := List.mem_map.mp hmem
      exact (hnear p hp).bounded
  refine (path_eq_ok_iff d t _).mpr ⟨hd, items, false, hspells, hproper, hlength ▸ hcount, ?_⟩
  rw [hpoints, List.map_map]
  rfl

/-- Two differences, of which the second keeps the mode, then a point as it is, with a sign and a
    zero more than it needs, and a difference again. -/
theorem path_of_mixed_segment :
    Written none .origin [⟨1, 1⟩, ⟨3, 3⟩, ⟨-3, 4⟩, ⟨-2, 4⟩] "m1,1 2 2L-3 +04l1 0".toList ∧
      "m1,1 2 2L-3 +04l1 0".utf8ByteSize ≤ byteLimit ∧
      (∀ p ∈ [⟨1, 1⟩, ⟨3, 3⟩, ⟨-3, 4⟩, ⟨-2, 4⟩], WholePoint.Near p) ∧
      ([.origin, ⟨1, 1⟩, ⟨3, 3⟩, ⟨-3, 4⟩, ⟨-2, 4⟩] : List WholePoint).IsChain
        (fun q p => (p - q).Near) ∧
      path "m1,1 2 2L-3 +04l1 0" ⟨1.0⟩ =
        .ok [⟨1.0, -1.0⟩, ⟨3.0, -3.0⟩, ⟨-3.0, -4.0⟩, ⟨-2.0, -4.0⟩] := by
  have hfirst : IsPair (Mode.relative.offset .origin ⟨1, 1⟩) "1,1".toList :=
    ⟨['1'], [','], ['1'], Decimal.isWhole_toString 1, by decide, by decide,
      Decimal.isWhole_toString 1, rfl⟩
  have hsecond : IsPair (Mode.relative.offset ⟨1, 1⟩ ⟨3, 3⟩) "2 2".toList :=
    ⟨['2'], [' '], ['2'], Decimal.isWhole_toString 2, by decide, by decide,
      Decimal.isWhole_toString 2, rfl⟩
  have hthird : IsPair (Mode.absolute.offset ⟨3, 3⟩ ⟨-3, 4⟩) "-3 +04".toList :=
    ⟨['-', '3'], [' '], ['+', '0', '4'], Decimal.isWhole_toString (-3), by decide, by decide,
      ⟨['+'], by decide, 1, rfl⟩, rfl⟩
  have hfourth : IsPair (Mode.relative.offset ⟨-3, 4⟩ ⟨-2, 4⟩) "1 0".toList :=
    ⟨['1'], [' '], ['0'], Decimal.isWhole_toString 1, by decide, by decide,
      Decimal.isWhole_toString 0, rfl⟩
  have h : Written none .origin [⟨1, 1⟩, ⟨3, 3⟩, ⟨-3, 4⟩, ⟨-2, 4⟩]
      "m1,1 2 2L-3 +04l1 0".toList :=
    .named (c := 'm') (s := []) (t := []) (by decide) (by decide) (by decide) hfirst <|
    .unnamed (s := [' ']) (by decide) (by decide) hsecond <|
    .named (c := 'L') (s := []) (t := []) (by decide) (by decide) (by decide) hthird <|
    .named (c := 'l') (s := []) (t := []) (by decide) (by decide) (by decide) hfourth <|
    .stop (s := []) (by decide)
  have hd : "m1,1 2 2L-3 +04l1 0".utf8ByteSize ≤ byteLimit := by decide
  have hnear : ∀ p ∈ [⟨1, 1⟩, ⟨3, 3⟩, ⟨-3, 4⟩, ⟨-2, 4⟩], WholePoint.Near p := by decide
  have hsteps : ([.origin, ⟨1, 1⟩, ⟨3, 3⟩, ⟨-3, 4⟩, ⟨-2, 4⟩] : List WholePoint).IsChain
      (fun q p => (p - q).Near) := by decide
  have hpath := path_of_written hd (by decide) (by decide) hnear hsteps h ⟨1.0⟩
  exact ⟨h, hd, hnear, hsteps, hpath.trans (by rfl)⟩

end NavScript.PathData
