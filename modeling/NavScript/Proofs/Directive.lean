import NavScript.Command
import NavScript.Directive
import NavScript.Proofs.Text.Lines

namespace NavScript

open NavScript.Geometry
open NavScript.Text (IsWord SingleLine)

/-!
# Directives as lines

A directive is written as one line that begins with a command of the simulator.  All of it is
written by the compiler or is a word of the script, with one exception: a label has the text of its
span as the drawing has it, and a line break in that text ends the line for whoever reads it.

* `simulatorWords` — the first words of all directives
* `fixed_mem_nonNumerals_iff` — how a number is written that is not finite
* `Directive.WellWorded` — what a script gives to a directive is words
* `Directive.singleLine_render_iff` — when a directive is one line
* `Directive.head?_wordsOf_render` — its first word
-/

/-- The first words of all that a script compiles to. -/
def simulatorWords : List String :=
  Command.simulatorKeywords ++ ["set-arena-size", "set-arena"]

/-! ### Numbers and polygons -/

/-- A decimal is written with digits and a point. -/
theorem mem_pointed {places n : Nat} {c : Char} (h : c ∈ Decimal.pointed places n) :
    c.isDigit = true ∨ c = '.' := by
  have hdigits : ∀ k, c ∈ List.replicate k '0' ++ Decimal.digits n → c.isDigit = true := by
    intro k hc
    rcases List.mem_append.mp hc with hc | hc
    · rw [List.eq_of_mem_replicate hc]
      decide
    · exact Nat.isDigit_of_mem_toDigits (by decide) (by decide) hc
  unfold Decimal.pointed at h
  dsimp only at h
  split at h
  · exact .inl (hdigits _ (List.mem_of_mem_take h))
  · rcases List.mem_append.mp h with h | h
    · exact .inl (hdigits _ (List.mem_of_mem_take h))
    · rcases List.mem_cons.mp h with rfl | h
      · exact .inr rfl
      · exact .inl (hdigits _ (List.mem_of_mem_drop h))

/-- A finite number is written with digits, a point, and a minus sign. -/
theorem mem_fixed_of_finite {places : Nat} {x : Float} {negative : Bool} {m : Nat} {q : Int}
    (hx : Decimal.exact x = .finite negative m q) {c : Char}
    (h : c ∈ (Decimal.fixed places x).toList) : c.isDigit = true ∨ c = '.' ∨ c = '-' := by
  rw [Decimal.fixed, String.toList_ofList, Decimal.fixedChars, hx] at h
  rcases List.mem_append.mp h with h | h
  · rcases List.mem_append.mp h with h | h
    · cases negative with
      | false => cases h
      | true => exact .inr (.inr (List.mem_singleton.mp h))
    · exact (mem_pointed h).imp_right .inl
  · rw [List.eq_of_mem_replicate h]
    exact .inl (by decide)

/-- What is written in place of a finite number. -/
def nonNumerals : List String :=
  ["NaN", "inf", "-inf"]

/-- Nothing but what is no finite number is written as such. -/
theorem fixed_mem_nonNumerals_iff (places : Nat) (x : Float) :
    Decimal.fixed places x ∈ nonNumerals ↔
      ¬ ∃ negative m q, Decimal.exact x = .finite negative m q := by
  constructor
  · rintro h ⟨negative, m, q, hx⟩
    -- each of the words has a letter in it
    have hletter : ∀ text ∈ nonNumerals,
        text.toList.any fun c => !(c.isDigit || c == '.' || c == '-') := by decide
    obtain ⟨c, hc, hne⟩ := List.any_eq_true.mp (hletter _ h)
    exact absurd (mem_fixed_of_finite hx hc) (by simpa [not_or, and_assoc] using hne)
  · intro h
    rw [Decimal.fixed, Decimal.fixedChars]
    cases hx : Decimal.exact x with
    | nan =>
      change String.ofList ['N', 'a', 'N'] ∈ nonNumerals
      decide
    | infinite negative =>
      change String.ofList (Decimal.sign negative ++ ['i', 'n', 'f']) ∈ nonNumerals
      cases negative <;> decide
    | finite negative m q => exact absurd ⟨negative, m, q, hx⟩ h

/-- There are no blanks in a number. -/
theorem isBlank_of_mem_fixed {places : Nat} {x : Float} {c : Char}
    (h : c ∈ (Decimal.fixed places x).toList) : Text.isBlank c = false := by
  by_cases hx : ∃ negative m q, Decimal.exact x = .finite negative m q
  · obtain ⟨negative, m, q, hx⟩ := hx
    rcases mem_fixed_of_finite hx h with hc | rfl | rfl
    · exact Text.isBlank_of_isDigit hc
    · decide
    · decide
  · have hwords : ∀ text ∈ nonNumerals, text.toList.all (!Text.isBlank ·) := by decide
    have hall := hwords _ ((fixed_mem_nonNumerals_iff places x).mpr hx)
    simpa using List.all_eq_true.mp hall c h

/-- A number is written in one line. -/
theorem singleLine_fixed (places : Nat) (x : Float) : SingleLine (Decimal.fixed places x) :=
  .of_forall_not_isBlank fun _ h => isBlank_of_mem_fixed h

/-- So are two numbers. -/
theorem singleLine_pair (places : Nat) (v : Vertex) : SingleLine (pair places v) := by
  simp only [pair, Text.singleLine_append]
  exact ⟨⟨singleLine_fixed .., by decide⟩, singleLine_fixed ..⟩

/-- The text of several polygons. -/
theorem multipolygon_eq (places : Nat) (paths : List Path) :
    multipolygon places paths =
      "MULTIPOLYGON(" ++ ",".intercalate (paths.map (polygon places)) ++ ")" := rfl

/-- It is written in one line, too. -/
theorem singleLine_multipolygon (places : Nat) (paths : List Path) :
    SingleLine (multipolygon places paths) := by
  have hcomma : SingleLine "," := by decide
  have hpolygon : ∀ text ∈ paths.map (polygon places), SingleLine text := by
    intro text htext
    obtain ⟨path, -, rfl⟩ := List.mem_map.mp htext
    have hpair : ∀ text ∈ path.map (pair places), SingleLine text := by
      intro text htext
      obtain ⟨v, -, rfl⟩ := List.mem_map.mp htext
      exact singleLine_pair places v
    simp only [polygon, Text.singleLine_append]
    exact ⟨⟨by decide, Text.singleLine_intercalate hcomma hpair⟩, by decide⟩
  rw [multipolygon_eq, Text.singleLine_append, Text.singleLine_append]
  exact ⟨⟨by decide, Text.singleLine_intercalate hcomma hpolygon⟩, by decide⟩

namespace Directive

/-! ### Lines -/

@[simp] theorem render_handedOn (places : Nat) (words : List String) :
    (handedOn words).render places = " ".intercalate words := rfl

@[simp] theorem render_arenaSize (places : Nat) (side : Float) :
    (arenaSize side).render places = "set-arena-size " ++ Decimal.fixed places side := rfl

@[simp] theorem render_arena (places : Nat) (rings : List Path) :
    (arena rings).render places = "set-arena " ++ multipolygon places rings := rfl

@[simp] theorem render_addLabel (places : Nat) (p : Vertex) (text : String) :
    (addLabel p text).render places = "add-label " ++ pair places p ++ " " ++ text := rfl

@[simp] theorem render_goto (places : Nat) (p : Vertex) :
    (goto p).render places = "goto " ++ pair places p := rfl

@[simp] theorem render_placeAgent (places : Nat) (p : Vertex) (heading : Float) :
    (placeAgent p heading).render places =
      "place-agent " ++ pair places p ++ " " ++ Decimal.fixed places heading := rfl

@[simp] theorem render_fence (places : Nat) (name : String) (ring : Path) :
    (fence name ring).render places = "set-fence " ++ name ++ " " ++ multipolygon places [ring] :=
  rfl

/-- What is handed on is words, the first of them a command, and the name of a fence is a word. -/
def WellWorded : Directive → Prop
  | handedOn ws => (∀ w ∈ ws, IsWord w.toList) ∧ ∃ w ∈ Command.simulatorKeywords, ws.head? = some w
  | fence name _ => IsWord name.toList
  | _ => True

/-- The text that a directive has from a drawing as it is. -/
def text? : Directive → Option String
  | addLabel _ text => some text
  | _ => none

/-- Every directive is one line, but for the text that it has from a drawing. -/
theorem singleLine_render_iff {d : Directive} (h : d.WellWorded) (places : Nat) :
    SingleLine (d.render places) ↔ ∀ text ∈ d.text?, SingleLine text := by
  have hspace : SingleLine " " := by decide
  have hfixed := singleLine_fixed places
  have hpair := singleLine_pair places
  have hpolygons := singleLine_multipolygon places
  cases d with
  | handedOn ws =>
    have hws : SingleLine (" ".intercalate ws) :=
      Text.singleLine_intercalate hspace fun w hw => .of_forall_not_isBlank (h.1 w hw).2
    simp [text?, hws]
  | arenaSize side =>
    have hkeyword : SingleLine "set-arena-size " := by decide
    simp [text?, Text.singleLine_append, hkeyword, hfixed]
  | arena rings =>
    have hkeyword : SingleLine "set-arena " := by decide
    simp [text?, Text.singleLine_append, hkeyword, hpolygons]
  | addLabel p text =>
    have hkeyword : SingleLine "add-label " := by decide
    simp [text?, Text.singleLine_append, hkeyword, hpair, hspace]
  | goto p =>
    have hkeyword : SingleLine "goto " := by decide
    simp [text?, Text.singleLine_append, hkeyword, hpair]
  | placeAgent p heading =>
    have hkeyword : SingleLine "place-agent " := by decide
    simp [text?, Text.singleLine_append, hkeyword, hpair, hspace, hfixed]
  | fence name ring =>
    have hkeyword : SingleLine "set-fence " := by decide
    have hname : SingleLine name := .of_forall_not_isBlank h.2
    simp [text?, Text.singleLine_append, hkeyword, hname, hspace, hpolygons]

/-- What is not handed on begins with a keyword of its own. -/
theorem exists_render_eq {d : Directive} (h : ∀ ws, d ≠ .handedOn ws) (places : Nat) :
    ∃ w ∈ simulatorWords, IsWord w.toList ∧ ∃ rest, d.render places = w ++ " " ++ rest := by
  cases d with
  | handedOn ws => exact absurd rfl (h ws)
  | arenaSize side =>
    refine ⟨"set-arena-size", by decide, by decide, Decimal.fixed places side, ?_⟩
    rw [show "set-arena-size" ++ " " = "set-arena-size " from rfl, render_arenaSize]
  | arena rings =>
    refine ⟨"set-arena", by decide, by decide, multipolygon places rings, ?_⟩
    rw [show "set-arena" ++ " " = "set-arena " from rfl, render_arena]
  | addLabel p text =>
    refine ⟨"add-label", by decide, by decide, pair places p ++ " " ++ text, ?_⟩
    rw [show "add-label" ++ " " = "add-label " from rfl, render_addLabel, String.append_assoc,
      String.append_assoc, String.append_assoc]
  | goto p =>
    refine ⟨"goto", by decide, by decide, pair places p, ?_⟩
    rw [show "goto" ++ " " = "goto " from rfl, render_goto]
  | placeAgent p heading =>
    refine ⟨"place-agent", by decide, by decide,
      pair places p ++ " " ++ Decimal.fixed places heading, ?_⟩
    rw [show "place-agent" ++ " " = "place-agent " from rfl, render_placeAgent, String.append_assoc,
      String.append_assoc, String.append_assoc]
  | fence name ring =>
    refine ⟨"set-fence", by decide, by decide, name ++ " " ++ multipolygon places [ring], ?_⟩
    rw [show "set-fence" ++ " " = "set-fence " from rfl, render_fence, String.append_assoc,
      String.append_assoc, String.append_assoc]

/-- Every directive begins with a command of the simulator. -/
theorem head?_wordsOf_render {d : Directive} (h : d.WellWorded) (places : Nat) :
    ∃ w ∈ simulatorWords, (Text.wordsOf (d.render places)).head? = some w := by
  by_cases hd : ∃ ws, d = .handedOn ws
  · obtain ⟨ws, rfl⟩ := hd
    obtain ⟨hws, w, hw, hhead⟩ := h
    refine ⟨w, List.mem_append_left _ hw, ?_⟩
    rw [render_handedOn, Text.wordsOf_intercalate hws, hhead]
  · obtain ⟨w, hw, hword, rest, hrender⟩ := exists_render_eq (fun ws hws => hd ⟨ws, hws⟩) places
    refine ⟨w, hw, ?_⟩
    rw [hrender, Text.head?_wordsOf hword]

end Directive

end NavScript
