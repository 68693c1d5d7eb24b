import NavScript.Proofs.PathData.Grammar
import NavScript.Proofs.PathData.Separators

namespace NavScript.PathData

open NavScript.Geometry

/-!
# Limits of accepted paths

The coordinates of all points are within bounds, those of relative pairs too.  Every vertex of a
path is that of a pair, except for the one with which a close operator repeats the first.  Room is
looked for before a pair is drawn, and not before the first vertex is repeated, so that a closed
path may have one vertex more than there are pairs allowed.

* `bounded_of_path` — the points of a path lie within bounds
* `numeralCount`, `closes` — what the number of vertices depends on
* `length_eq_of_path` — the number of vertices
* `length_bounds_of_path` — its bounds, and the only texts that go beyond the point limit
-/

/-! ### Coordinates -/

/-- A pair is drawn to a point within bounds. -/
theorem Pen.bounded_of_drawPair {pen pen' : Pen} {x y : List Char}
    (h : pen.drawPair x (some y) = .ok pen') : ∃ q, pen' = pen.drawnTo q ∧ Bounded q := by
  obtain ⟨m, p, -, hx, hy, hb, -, rfl⟩ := (Pen.drawPair_eq_ok_iff pen pen' x y).mp h
  refine ⟨_, rfl, ?_⟩
  cases m with
  | absolute => exact ⟨hx.2, hy.2⟩
  | relative => exact hb rfl

/-- Repeating the first point adds no other. -/
theorem mem_of_mem_repeated {α : Type} {closed : Bool} {ps : List α} {q : α}
    (h : q ∈ repeated closed ps) : q ∈ ps := by
  cases closed with
  | false => exact h
  | true =>
    rcases List.mem_append.mp h with h | h
    · exact h
    · exact List.mem_of_mem_head? (by simpa using h)

/-- Points within bounds stay so while the tokens are read. -/
theorem bounded_of_pointsOfTokens {pen : Pen} {tokens : List (List Char)} {ps : List Point}
    (hpen : ∀ q ∈ pen.drawn, Bounded q) (h : pointsOfTokens pen tokens = .ok ps) :
    ∀ q ∈ ps, Bounded q := by
  fun_induction pointsOfTokens pen tokens with
  | case1 pen =>
    obtain ⟨-, rfl⟩ := (Pen.finish_eq_ok_iff pen ps).mp h
    simpa using hpen
  | case2 pen token rest m hop ih => exact ih hpen h
  | case3 pen token rest hop =>
    obtain ⟨-, -, rfl⟩ := (Pen.close_eq_ok_iff pen rest ps).mp h
    intro q hq
    have hrepeated : q ∈ repeated true pen.drawn.reverse := hq
    exact hpen q (List.mem_reverse.mp (mem_of_mem_repeated hrepeated))
  | case4 pen token hop pen' hd => exact absurd hd (Pen.drawPair_none_ne_ok pen pen' token)
  | case5 pen token hop e hd => cases h
  | case6 pen token hop y rest pen' hd ih =>
    obtain ⟨q, rfl, hq⟩ := Pen.bounded_of_drawPair hd
    refine ih ?_ h
    simpa using ⟨hq, hpen⟩
  | case7 pen token hop y rest e hd => cases h

/-- A path consists of the images of points within bounds. -/
theorem bounded_of_path {d : String} {t : Transform} {p : Path} (h : path d t = .ok p) :
    ∀ v ∈ p, ∃ q, Bounded q ∧ v = t.apply q := by
  rw [path, points] at h
  split at h
  · cases h
  cases hps : pointsOfTokens .start (tokens d.toList) with
  | error e => simp [hps, Except.map] at h
  | ok ps =>
    simp only [hps, Except.map, Except.ok.injEq] at h
    rw [← h, Transform.applyAll]
    intro v hv
    obtain ⟨q, hq, rfl⟩ := List.mem_map.mp hv
    exact ⟨q, bounded_of_pointsOfTokens (fun _ hq => absurd hq List.not_mem_nil) hps q hq, rfl⟩

/-! ### The number of vertices -/

/-- The number of tokens that are no operators. -/
def numeralCount (d : String) : Nat :=
  (Text.words (normalize d.toList)).countP (!isLetterToken ·)

/-- The last token is a close operator. -/
def closesTokens (tokens : List (List Char)) : Bool :=
  tokens.getLast?.any (Operator.ofToken? · == some .close)

/-- Path data ends with a close operator. -/
def closes (d : String) : Bool :=
  closesTokens (Text.words (normalize d.toList))

/-- A token that closes nothing does not matter in front of others. -/
theorem closesTokens_cons {token : List Char} (h : Operator.ofToken? token ≠ some .close)
    (tokens : List (List Char)) : closesTokens (token :: tokens) = closesTokens tokens := by
  rw [closesTokens, closesTokens, List.getLast?_cons]
  cases tokens.getLast? with
  | none => simpa using h
  | some last => rfl

/-- Tokens tell whether what they spell is closed. -/
theorem Spells.closed_eq {tokens : List (List Char)} {items : List Item} {closed : Bool}
    (h : Spells tokens items closed) : closed = closesTokens tokens := by
  induction h with
  | stop => rfl
  | close hc =>
    simp [closesTokens, (Operator.ofToken?_eq_close_iff _).mpr ⟨_, hc, rfl⟩]
  | operator hc _ ih =>
    rw [closesTokens_cons, ih]
    simp [(Operator.ofToken?_eq_mode_iff _ _).mpr ⟨_, hc, rfl⟩]
  | pair hx hy _ ih =>
    rw [closesTokens_cons (by simp [hx.ofToken?_eq_none]),
      closesTokens_cons (by simp [hy.ofToken?_eq_none]), ih]

/-- The vertices of accepted path data: one for every pair, and the first once more if the path is
    closed. -/
theorem length_eq_of_path {d : String} {t : Transform} {p : Path} (h : path d t = .ok p) :
    ∃ pairs, numeralCount d = 2 * pairs ∧ 1 ≤ pairs ∧ pairs ≤ pointLimit ∧
      p.length = pairs + (closes d).toNat := by
  obtain ⟨-, items, closed, hs, hp, hroom, rfl⟩ := (path_eq_ok_iff d t p).mp h
  rw [tokens_eq] at hs
  have hne := (trace_ne_nil_iff .absolute ⟨0.0, 0.0⟩ items).mpr hp.inhabited
  refine ⟨_, hs.countP_eq .absolute ⟨0.0, 0.0⟩, List.length_pos_iff.mpr hne, hroom, ?_⟩
  rw [closes, ← hs.closed_eq]
  cases closed with
  | false => simp [repeated]
  | true =>
    cases htrace : trace .absolute ⟨0.0, 0.0⟩ items with
    | nil => exact absurd htrace hne
    | cons q qs => simp [repeated]

/-- **The number of vertices.**  A path has at least one vertex and at most one more than there are
    pairs allowed; that many it has only when it is closed after as many pairs as are allowed. -/
theorem length_bounds_of_path {d : String} {t : Transform} {p : Path} (h : path d t = .ok p) :
    1 ≤ p.length ∧ p.length ≤ pointLimit + 1 ∧
      (pointLimit < p.length ↔ numeralCount d = 2 * pointLimit ∧ closes d = true) := by
  obtain ⟨pairs, hcount, hlow, hhigh, hlength⟩ := length_eq_of_path h
  rw [hlength, hcount]
  cases closes d with
  | false => simp; omega
  | true => simp; omega

/-- A path of one pair, closed. -/
theorem length_bounds_of_closed_point :
    path "M1,2Z" ⟨1.0⟩ = .ok [⟨1.0, -2.0⟩, ⟨1.0, -2.0⟩] ∧ 1 ≤ 2 ∧ 2 ≤ pointLimit + 1 ∧
      (pointLimit < 2 ↔ numeralCount "M1,2Z" = 2 * pointLimit ∧ closes "M1,2Z" = true) := by
  have h : path "M1,2Z" ⟨1.0⟩ = .ok [⟨1.0, -2.0⟩, ⟨1.0, -2.0⟩] := by
    rfl
  exact ⟨h, length_bounds_of_path h⟩

/-! ### A full path that is closed -/

/-- A number of pairs at the origin, and a close operator. -/
def closedOrigins : Nat → String
  | 0 => " Z"
  | n + 1 => " 0 0" ++ closedOrigins n

/-- The length of such a text. -/
theorem utf8ByteSize_closedOrigins (n : Nat) : (closedOrigins n).utf8ByteSize = 4 * n + 2 := by
  induction n with
  | zero => decide
  | succ n ih =>
    have hpair : " 0 0".utf8ByteSize = 4 := by decide
    rw [closedOrigins, String.utf8ByteSize_append, ih, hpair]
    omega

/-- The pairs and the operator are set apart from a text in front of them. -/
theorem tokens_append_closedOrigins (s : String) (n : Nat) :
    tokens (s ++ closedOrigins n).toList = tokens s.toList ++ tokens (closedOrigins n).toList := by
  have hspace : ∃ cs, (closedOrigins n).toList = [' '] ++ cs := by
    cases n with
    | zero => exact ⟨_, rfl⟩
    | succ n =>
      rw [closedOrigins, String.toList_append]
      exact ⟨_, rfl⟩
  have hgap : IsGap [' '] := by decide
  obtain ⟨cs, hcs⟩ := hspace
  rw [String.toList_append, hcs, ← List.append_assoc, tokens_append_gap hgap (.inl (by decide)),
    tokens_gap_append hgap]

/-- What it spells. -/
theorem spells_closedOrigins (n : Nat) :
    Spells (tokens (closedOrigins n).toList) (List.replicate n (.pair ⟨0.0, 0.0⟩)) true := by
  induction n with
  | zero => exact .close (by decide)
  | succ n ih =>
    have hzero : Coordinate ['0'] 0.0 := ⟨by decide +kernel, by decide +kernel⟩
    have hpair : tokens " 0 0".toList = [['0'], ['0']] := by decide
    rw [closedOrigins, tokens_append_closedOrigins, hpair]
    exact .pair hzero hzero ih

/-- The same pair again and again leads to the same point. -/
theorem trace_replicate_pair (n : Nat) (origin p : Point) :
    trace .absolute origin (List.replicate n (.pair p)) = List.replicate n (.absolute, p) := by
  induction n generalizing origin with
  | zero => rfl
  | succ n ih => rw [List.replicate_succ, trace, ih]; rfl

/-- As many pairs as are allowed and a close operator are accepted. -/
theorem exists_path_closedOrigins {n : Nat} (hpos : 0 < n) (hn : n ≤ pointLimit) (t : Transform) :
    ∃ p, path ("M" ++ closedOrigins n) t = .ok p ∧ p.length = n + 1 := by
  have hsize : ("M" ++ closedOrigins n).utf8ByteSize ≤ byteLimit := by
    have hletter : "M".utf8ByteSize = 1 := by decide
    rw [String.utf8ByteSize_append, utf8ByteSize_closedOrigins, hletter]
    unfold pointLimit at hn
    unfold byteLimit
    omega
  have hletter : tokens "M".toList = [['M']] := by decide
  have hspells : Spells (tokens ("M" ++ closedOrigins n).toList)
      (.operator .absolute :: List.replicate n (.pair ⟨0.0, 0.0⟩)) true := by
    rw [tokens_append_closedOrigins, hletter]
    exact .operator (by decide) (spells_closedOrigins n)
  have hdrawn : trace .absolute ⟨0.0, 0.0⟩
        (.operator .absolute :: List.replicate n (.pair ⟨0.0, 0.0⟩)) =
      List.replicate n (.absolute, ⟨0.0, 0.0⟩) := trace_replicate_pair n _ _
  have hproper : Proper (.operator .absolute :: List.replicate n (.pair ⟨0.0, 0.0⟩)) := by
    refine ⟨⟨_, _, rfl⟩, ⟨⟨0.0, 0.0⟩, ?_⟩, fun q hq => ?_⟩
    · simpa using Nat.ne_of_gt hpos
    · rw [hdrawn] at hq
      simp [List.mem_replicate] at hq
  refine ⟨_, (path_eq_ok_iff _ t _).mpr ⟨hsize, _, true, hspells, hproper, ?_, rfl⟩, ?_⟩
  · simpa [hdrawn] using hn
  · obtain ⟨k, rfl⟩ := Nat.exists_eq_succ_of_ne_zero (Nat.ne_of_gt hpos)
    rw [hdrawn]
    simp [repeated, List.replicate_succ]

/-- The limit does not cover the vertex that closes a path. -/
theorem length_of_full_closed_path :
    ∃ p, path ("M" ++ closedOrigins pointLimit) ⟨1.0⟩ = .ok p ∧ ¬ p.length ≤ pointLimit := by
  obtain ⟨p, hp, hlength⟩ :=
    exists_path_closedOrigins (n := pointLimit) (by decide) (Nat.le_refl _) ⟨1.0⟩
  exact ⟨p, hp, by omega⟩

end NavScript.PathData
