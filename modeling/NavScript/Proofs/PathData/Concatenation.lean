import NavScript.Proofs.PathData.Grammar
import NavScript.Proofs.PathData.Separators

namespace NavScript.PathData

open NavScript.Geometry

/-!
# Path data put together

An absolute pair is drawn wherever the pen is, and gives its point whatever was drawn before.  So
when path data that opens with an absolute pair is put behind other path data, what stands in front
leaves nothing to it but the mode and the point that it does not look at, and the path is made up of
the two paths.  A close operator behind both repeats the first vertex of the first.

* `Spells.append`, `trace_append` — the items of two texts, and their points
* `openingMode`, `trace_eq_of_openingMode` — what an absolute opening makes independent
* `OpensAbsolutely` — path data with an absolute opening
* `path_append` — the path of two texts
-/

/-! ### Items put together -/

/-- Two spellings one after the other, of which only the second may be closed. -/
theorem Spells.append {s t : List (List Char)} {items items' : List Item} {closed : Bool}
    (h : Spells s items false) (h' : Spells t items' closed) :
    Spells (s ++ t) (items ++ items') closed := by
  generalize hopen : false = c at h
  induction h with
  | stop => exact h'
  | close hc => cases hopen
  | operator hc h ih => exact .operator hc (ih hopen)
  | pair hx hy h ih => exact .pair hx hy (ih hopen)

/-- Items go on with the mode and from the point that the items before them have led to. -/
theorem exists_trace_append (m : Mode) (origin : Point) (items items' : List Item) :
    ∃ m' origin',
      trace m origin (items ++ items') = trace m origin items ++ trace m' origin' items' := by
  induction items generalizing m origin with
  | nil => exact ⟨m, origin, rfl⟩
  | cons item items ih =>
    cases item with
    | operator m' => exact ih m' origin
    | pair p =>
      obtain ⟨m', origin', h⟩ := ih m (m.target origin p)
      exact ⟨m', origin', congrArg _ h⟩

/-- The mode that the last operator before the first pair sets. -/
def openingMode : List Item → Option Mode
  | .operator m :: items => (openingMode items).or (some m)
  | _ => none

/-- Items with an absolute opening have the same points in whatever mode and from whatever point. -/
theorem trace_eq_of_openingMode {items : List Item} (h : openingMode items = some .absolute)
    (m m' : Mode) (origin origin' : Point) : trace m origin items = trace m' origin' items := by
  induction items generalizing m m' with
  | nil => cases h
  | cons item items ih =>
    cases item with
    | pair p => cases h
    | operator k =>
      rw [trace, trace]
      cases hrest : openingMode items with
      | some k' =>
        simp only [openingMode, hrest, Option.some_or] at h
        exact ih (hrest.trans h) k k
      | none =>
        obtain rfl : k = .absolute := by simpa [openingMode, hrest] using h
        cases items with
        | nil => rfl
        | cons item items =>
          cases item with
          | operator k' => cases hk : openingMode items <;> simp [openingMode, hk] at hrest
          -- an absolute pair is drawn without a look at where the pen is
          | pair p => rfl

/-- What opens with an absolute mode is traced as if nothing came before. -/
theorem trace_append {items' : List Item} (h : openingMode items' = some .absolute) (m : Mode)
    (origin : Point) (items : List Item) :
    trace m origin (items ++ items') =
      trace m origin items ++ trace .absolute ⟨0.0, 0.0⟩ items' := by
  obtain ⟨m', origin', happend⟩ := exists_trace_append m origin items items'
  rw [happend, trace_eq_of_openingMode h m' .absolute origin' ⟨0.0, 0.0⟩]

/-- Proper items put together, of which the second begin with an absolute mode. -/
theorem Proper.append {items items' : List Item} (h : Proper items) (h' : Proper items')
    (hopening : openingMode items' = some .absolute) : Proper (items ++ items') := by
  obtain ⟨⟨m, rest, rfl⟩, ⟨p, hp⟩, hbounded⟩ := h
  refine ⟨⟨m, rest ++ items', rfl⟩, ⟨p, List.mem_append_left _ hp⟩, fun q hq => ?_⟩
  rw [trace_append hopening] at hq
  rcases List.mem_append.mp hq with hq | hq
  · exact hbounded q hq
  · exact h'.bounded q hq

/-! ### Texts -/

/-- No letter closes the path. -/
def Unclosed (d : String) : Prop :=
  ∀ c ∈ closeLetters, c ∉ d.toList

/-- The last operator before the first number makes it absolute. -/
def OpensAbsolutely (d : String) : Prop :=
  ∃ c ∈ Mode.absolute.letters, ((tokens d.toList).takeWhile isLetterToken).getLast? = some [c]

instance (d : String) : Decidable (Unclosed d) :=
  decidable_of_iff (closeLetters.all (· ∉ d.toList) = true) (by simp [Unclosed])

instance (d : String) : Decidable (OpensAbsolutely d) :=
  decidable_of_iff (Mode.absolute.letters.any fun c =>
    ((tokens d.toList).takeWhile isLetterToken).getLast? == some [c]) (by simp [OpensAbsolutely])

/-- A path is closed by a letter. -/
theorem Spells.exists_mem_of_closed {tokens : List (List Char)} {items : List Item} {closed : Bool}
    (h : Spells tokens items closed) (hclosed : closed = true) :
    ∃ c ∈ closeLetters, [c] ∈ tokens := by
  induction h with
  | stop => cases hclosed
  | close hc => exact ⟨_, hc, List.mem_singleton_self _⟩
  | operator hc h ih =>
    obtain ⟨c, hc, hmem⟩ := ih hclosed
    exact ⟨c, hc, List.mem_cons_of_mem _ hmem⟩
  | pair hx hy h ih =>
    obtain ⟨c, hc, hmem⟩ := ih hclosed
    exact ⟨c, hc, List.mem_cons_of_mem _ (List.mem_cons_of_mem _ hmem)⟩

/-- A text without such a letter spells no closed path. -/
theorem Unclosed.closed_eq_false {d : String} (hd : Unclosed d) {items : List Item} {closed : Bool}
    (h : Spells (tokens d.toList) items closed) : closed = false := by
  rw [← Bool.not_eq_true]
  intro hclosed
  obtain ⟨c, hc, hmem⟩ := h.exists_mem_of_closed hclosed
  exact hd c hc (mem_of_mem_tokens hmem (List.mem_singleton_self c))

/-- The opening mode is set by the last of the letters that the tokens begin with. -/
theorem Spells.openingMode_eq {tokens : List (List Char)} {items : List Item} {m : Mode} {c : Char}
    (h : Spells tokens items false) (hc : c ∈ m.letters)
    (hlast : (tokens.takeWhile isLetterToken).getLast? = some [c]) :
    openingMode items = some m := by
  generalize hopen : false = closed at h
  induction h with
  | stop => cases hlast
  | close hc => cases hopen
  | pair hx hy h ih => simp [hx.isLetterToken_eq_false] at hlast
  | @operator c' m' tokens items closed hc' h ih =>
    rw [List.takeWhile_cons_of_pos (Mode.isLetterToken_of_mem hc'), List.getLast?_cons] at hlast
    rw [openingMode]
    cases hrest : (tokens.takeWhile isLetterToken).getLast? with
    | some token =>
      rw [hrest] at hlast ih
      rw [ih hlast hopen, Option.some_or]
    | none =>
      simp only [hrest, Option.getD_none, Option.some.injEq, List.cons.injEq, and_true] at hlast
      have hmode : m' = m := by
        have hop' := (Operator.ofToken?_eq_mode_iff [c'] m').mpr ⟨c', hc', rfl⟩
        rw [hlast, (Operator.ofToken?_eq_mode_iff [c] m).mpr ⟨c, hc, rfl⟩] at hop'
        cases hop'
        rfl
      have hnone : openingMode items = none := by
        cases h with
        | stop => rfl
        | close hc => rfl
        | pair hx hy h => rfl
        | operator hc h =>
          rw [List.takeWhile_cons_of_pos (Mode.isLetterToken_of_mem hc),
            List.getLast?_cons] at hrest
          cases hrest
      rw [hnone, hmode]
      rfl

/-- **The path of two texts.**  Path data that opens with an absolute pair, put behind other path
    data with a space between them, adds its path to that of the other, whose first vertex a close
    operator repeats. -/
theorem path_append {d₁ d₂ : String} {t : Transform} {p q : Path} (h₁ : path d₁ t = .ok p)
    (h₂ : path d₂ t = .ok q) (hopen₁ : Unclosed d₁) (hopen₂ : Unclosed d₂)
    (habsolute : OpensAbsolutely d₂) (hroom : p.length + q.length ≤ pointLimit)
    (hsize : (d₁ ++ " " ++ d₂).utf8ByteSize ≤ byteLimit) :
    path (d₁ ++ " " ++ d₂) t = .ok (p ++ q) ∧
      ∃ v, p.head? = some v ∧
        ((d₁ ++ " " ++ d₂ ++ " Z").utf8ByteSize ≤ byteLimit →
          path (d₁ ++ " " ++ d₂ ++ " Z") t = .ok (p ++ q ++ [v])) := by
  obtain ⟨-, items₁, closed₁, hs₁, hp₁, -, hp⟩ := (path_eq_ok_iff d₁ t p).mp h₁
  obtain ⟨-, items₂, closed₂, hs₂, hp₂, -, hq⟩ := (path_eq_ok_iff d₂ t q).mp h₂
  obtain rfl := hopen₁.closed_eq_false hs₁
  obtain rfl := hopen₂.closed_eq_false hs₂
  simp only [repeated, Bool.false_eq_true, if_false] at hp hq
  obtain ⟨c, hc, hlast⟩ := habsolute
  have hopening := hs₂.openingMode_eq hc hlast
  have htrace := trace_append hopening .absolute ⟨0.0, 0.0⟩ items₁
  have hjoined : ∀ (e : String) (closed : Bool), e.utf8ByteSize ≤ byteLimit →
      Spells (tokens e.toList) (items₁ ++ items₂) closed →
      path e t = .ok (repeated closed (p ++ q)) := by
    intro e closed he hs
    refine (path_eq_ok_iff e t _).mpr ⟨he, _, closed, hs, hp₁.append hp₂ hopening, ?_, ?_⟩
    · rw [hp, hq] at hroom
      simpa [htrace] using hroom
    · rw [htrace, List.map_append, List.map_append, hp, hq]
  have htokens : tokens (d₁ ++ " " ++ d₂).toList = tokens d₁.toList ++ tokens d₂.toList := by
    rw [String.toList_append, String.toList_append]
    exact tokens_append_gap (by decide) (.inl (by decide))
  have hspells := hs₁.append hs₂
  rw [← htokens] at hspells
  refine ⟨hjoined _ false hsize hspells, ?_⟩
  have hne : p ≠ [] := by
    rw [hp]
    simpa using (trace_ne_nil_iff .absolute ⟨0.0, 0.0⟩ items₁).mpr hp₁.inhabited
  obtain ⟨v, rest, rfl⟩ := List.exists_cons_of_ne_nil hne
  refine ⟨v, rfl, fun hclosed => hjoined _ true hclosed ?_⟩
  have hletter : tokens (d₁ ++ " " ++ d₂ ++ " Z").toList =
      tokens (d₁ ++ " " ++ d₂).toList ++ [['Z']] := by
    have hgap := tokens_append_gap (s := [' ']) (by decide) (a := (d₁ ++ " " ++ d₂).toList)
      (b := ['Z']) (.inl (by decide))
    rw [List.append_assoc] at hgap
    rw [String.toList_append]
    exact hgap
  have hspells' := hspells.append (.close (c := 'Z') (by decide))
  rwa [← hletter, List.append_nil] at hspells'

/-- Two relative points, and behind them an absolute one and one relative to it. -/
theorem path_append_of_mixed_modes :
    path "m1,1 2 2" ⟨1.0⟩ = .ok [⟨1.0, -1.0⟩, ⟨3.0, -3.0⟩] ∧
      path "m L 5 5 l 1 0" ⟨1.0⟩ = .ok [⟨5.0, -5.0⟩, ⟨6.0, -5.0⟩] ∧
      Unclosed "m1,1 2 2" ∧ Unclosed "m L 5 5 l 1 0" ∧ OpensAbsolutely "m L 5 5 l 1 0" ∧
      2 + 2 ≤ pointLimit ∧ ("m1,1 2 2" ++ " " ++ "m L 5 5 l 1 0").utf8ByteSize ≤ byteLimit ∧
      path ("m1,1 2 2" ++ " " ++ "m L 5 5 l 1 0") ⟨1.0⟩ =
        .ok [⟨1.0, -1.0⟩, ⟨3.0, -3.0⟩, ⟨5.0, -5.0⟩, ⟨6.0, -5.0⟩] ∧
      path ("m1,1 2 2" ++ " " ++ "m L 5 5 l 1 0" ++ " Z") ⟨1.0⟩ =
        .ok [⟨1.0, -1.0⟩, ⟨3.0, -3.0⟩, ⟨5.0, -5.0⟩, ⟨6.0, -5.0⟩, ⟨1.0, -1.0⟩] := by
  have h₁ : path "m1,1 2 2" ⟨1.0⟩ = .ok [⟨1.0, -1.0⟩, ⟨3.0, -3.0⟩] := by rfl
  have h₂ : path "m L 5 5 l 1 0" ⟨1.0⟩ = .ok [⟨5.0, -5.0⟩, ⟨6.0, -5.0⟩] := by rfl
  have hopen₁ : Unclosed "m1,1 2 2" := by decide
  have hopen₂ : Unclosed "m L 5 5 l 1 0" := by decide
  have habsolute : OpensAbsolutely "m L 5 5 l 1 0" := by decide
  have hroom : 2 + 2 ≤ pointLimit := by decide
  have hsize : ("m1,1 2 2" ++ " " ++ "m L 5 5 l 1 0").utf8ByteSize ≤ byteLimit := by decide
  have hsize' : ("m1,1 2 2" ++ " " ++ "m L 5 5 l 1 0" ++ " Z").utf8ByteSize ≤ byteLimit := by decide
  obtain ⟨hjoined, v, hv, hclosed⟩ := path_append h₁ h₂ hopen₁ hopen₂ habsolute hroom hsize
  obtain rfl := Option.some.inj hv
  exact ⟨h₁, h₂, hopen₁, hopen₂, habsolute, hroom, hsize, hjoined, hclosed hsize'⟩

end NavScript.PathData
