import NavScript.Text.Lines
import NavScript.Text.Utf8
import NavScript.Proofs.Text.Words

namespace NavScript.Text

/-!
# Strings as physical lines

Strings written one after the other, each with a line feed, are read as physical lines again.  These
are the strings if none of them has a line feed in it or a carriage return at its end; in UTF-8 such
a byte stands for that character only.

* `SingleLine` — a string without a line feed and without a carriage return
* `mem_encode_iff` — where the bytes below 128 come from
* `lines_append_lineFeed` — a line feed separates the lines around it
* `lines_flatMap_eq_iff` — when strings are read as they have been written
-/

/-! ### Bytes of strings -/

/-- The bytes of an array, from a place on. -/
theorem toList_loop_eq (b : ByteArray) (i : Nat) (r : List UInt8) :
    ByteArray.toList.loop b i r = r.reverse ++ b.data.toList.drop i := by
  fun_induction ByteArray.toList.loop b i r with
  | case1 i r h ih =>
    have hsize : i < b.data.toList.length := h
    have hget : b.get! i = b.data.toList[i] := getElem!_pos b.data i h
    rw [ih, hget, List.drop_eq_getElem_cons hsize, List.reverse_cons, List.append_assoc]
    rfl
  | case2 i r h =>
    have hsize : b.data.toList.length ≤ i := Nat.le_of_not_lt h
    rw [List.drop_of_length_le hsize, List.append_nil]

/-- The bytes of an array, read off one after the other. -/
theorem toList_eq_data_toList (b : ByteArray) : b.toList = b.data.toList := by
  simpa [ByteArray.toList] using toList_loop_eq b 0 []

/-- The bytes of a string are those of its characters. -/
theorem encode_eq_flatMap (s : String) :
    Utf8.encode s = s.toList.flatMap String.utf8EncodeChar := by
  rw [Utf8.encode, toList_eq_data_toList, String.toUTF8_eq_toByteArray, ← String.utf8Encode_toList,
    List.utf8Encode, List.toList_data_toByteArray]

/-- Texts put together have their bytes one after the other. -/
theorem encode_append (a b : String) :
    Utf8.encode (a ++ b) = Utf8.encode a ++ Utf8.encode b := by
  rw [encode_eq_flatMap, encode_eq_flatMap, encode_eq_flatMap, String.toList_append,
    List.flatMap_append]

/-- A byte below 128 is a character of its own. -/
theorem toNat_of_mem_utf8EncodeChar {c : Char} {b : UInt8} (hb : b.toNat < 128)
    (h : b ∈ String.utf8EncodeChar c) : c.toNat = b.toNat := by
  revert h
  -- the bytes of a character that needs several have their highest bit set
  fun_cases String.utf8EncodeChar c with
  | case1 n hn =>
    intro h
    rw [List.mem_singleton.mp h, UInt8.toNat_ofNat']
    exact (Nat.mod_eq_of_lt (show c.val.toNat < 2 ^ 8 by omega)).symm
  | case2 n h1 h2 =>
    intro h
    simp only [List.mem_cons, List.not_mem_nil, or_false] at h
    rcases h with rfl | rfl <;> rw [UInt8.toNat_ofNat'] at hb <;> omega
  | case3 n h1 h2 h3 =>
    intro h
    simp only [List.mem_cons, List.not_mem_nil, or_false] at h
    rcases h with rfl | rfl | rfl <;> rw [UInt8.toNat_ofNat'] at hb <;> omega
  | case4 n h1 h2 h3 =>
    intro h
    simp only [List.mem_cons, List.not_mem_nil, or_false] at h
    rcases h with rfl | rfl | rfl | rfl <;> rw [UInt8.toNat_ofNat'] at hb <;> omega

/-- A character below 128 is written by its own number. -/
theorem utf8EncodeChar_of_lt {c : Char} (hc : c.toNat < 128) :
    String.utf8EncodeChar c = [UInt8.ofNat c.toNat] := by
  rw [String.utf8EncodeChar]
  exact if_pos (Nat.le_of_lt_succ hc)

/-- And no other character has that byte among its own. -/
theorem eq_of_mem_utf8EncodeChar {c d : Char} (hc : c.toNat < 128)
    (h : UInt8.ofNat c.toNat ∈ String.utf8EncodeChar d) : d = c := by
  have hb : (UInt8.ofNat c.toNat).toNat = c.toNat := by
    rw [UInt8.toNat_ofNat']
    exact Nat.mod_eq_of_lt (by omega)
  have hd := toNat_of_mem_utf8EncodeChar (by omega) h
  exact Char.toNat_inj.mp (hd.trans hb)

/-- The byte of a character below 128 stands where the character does. -/
theorem mem_encode_iff {c : Char} (hc : c.toNat < 128) (s : String) :
    UInt8.ofNat c.toNat ∈ Utf8.encode s ↔ c ∈ s.toList := by
  rw [encode_eq_flatMap, List.mem_flatMap]
  refine ⟨?_, fun h => ⟨c, h, by simp [utf8EncodeChar_of_lt hc]⟩⟩
  rintro ⟨d, hd, hmem⟩
  exact eq_of_mem_utf8EncodeChar hc hmem ▸ hd

/-- So it can be told from the last byte whether a text ends in it. -/
theorem getLast?_encode_iff {c : Char} (hc : c.toNat < 128) (s : String) :
    (Utf8.encode s).getLast? = some (UInt8.ofNat c.toNat) ↔ s.toList.getLast? = some c := by
  rw [encode_eq_flatMap]
  rcases List.eq_nil_or_concat s.toList with hs | ⟨front, d, hs⟩
  · simp [hs]
  · have hne := String.utf8EncodeChar_ne_nil (c := d)
    rw [hs, List.concat_eq_append, List.flatMap_append, List.flatMap_singleton,
      List.getLast?_append,
      List.getLast?_eq_some_getLast hne, Option.some_or, List.getLast?_concat, Option.some.injEq,
      Option.some.injEq]
    refine ⟨fun h => eq_of_mem_utf8EncodeChar hc (h ▸ List.getLast_mem hne), ?_⟩
    rintro rfl
    simp [utf8EncodeChar_of_lt hc]

/-! ### Physical lines -/

/-- A line feed separates the lines around it; in front of it there is at least one. -/
theorem lines_append_lineFeed (front rest : List UInt8) :
    lines (front ++ 10 :: rest) = (front.splitOn 10).map dropReturn ++ lines rest := by
  have hne := List.splitOn_ne_nil 10 rest
  rw [lines, lines, List.splitOn_append_cons_self, List.dropLast_append_of_ne_nil hne,
    List.getLast?_append, List.getLast?_eq_some_getLast hne, Option.some_or, List.map_append,
    List.append_assoc]

/-- What lines are read as when each is written with a line feed. -/
theorem lines_flatMap (ls : List (List UInt8)) :
    lines (ls.flatMap (· ++ [10])) = ls.flatMap fun l => (l.splitOn 10).map dropReturn := by
  induction ls with
  | nil => rfl
  | cons l ls ih =>
    rw [List.flatMap_cons, List.flatMap_cons, List.append_assoc, List.singleton_append,
      lines_append_lineFeed, ih]

/-- A line stays as it is unless it ends in a carriage return. -/
theorem dropReturn_eq_self_iff (line : List UInt8) :
    dropReturn line = line ↔ line.getLast? ≠ some 13 := by
  unfold dropReturn
  split
  · rename_i h
    refine ⟨fun heq => ?_, fun hne => absurd h hne⟩
    have hlength := congrArg List.length heq
    have hpos : line ≠ [] := by
      rintro rfl
      simp at h
    have := List.length_pos_iff.mpr hpos
    rw [List.length_dropLast] at hlength
    omega
  · rename_i h
    exact ⟨fun _ => h, fun _ => rfl⟩

/-- One line is read as itself if it has no line feed in it and no carriage return at its end. -/
theorem splitOn_map_dropReturn_eq_singleton_iff (line : List UInt8) :
    (line.splitOn 10).map dropReturn = [line] ↔ 10 ∉ line ∧ line.getLast? ≠ some 13 := by
  rw [← dropReturn_eq_self_iff]
  refine ⟨fun h => ?_, fun ⟨hmem, hdrop⟩ => ?_⟩
  · obtain ⟨part, hpart, hdrop⟩ := List.map_eq_singleton_iff.mp h
    have hline : line = part := by
      have hjoin : [10].intercalate (line.splitOn 10) = line := List.intercalate_splitOn 10
      rwa [hpart, List.intercalate_singleton, eq_comm] at hjoin
    subst hline
    refine ⟨fun hmem => ?_, hdrop⟩
    obtain ⟨front, rest, hsplit⟩ := List.append_of_mem hmem
    rw [hsplit, List.splitOn_append_cons_self] at hpart
    have hlength := congrArg List.length hpart
    have h1 := List.length_pos_iff.mpr (List.splitOn_ne_nil 10 front)
    have h2 := List.length_pos_iff.mpr (List.splitOn_ne_nil 10 rest)
    simp only [List.length_append, List.length_singleton] at hlength
    omega
  · rw [List.splitOn_eq_singleton hmem, List.map_singleton, hdrop]

/-- **Lines written are the lines read** if none of them has a line feed in it and none ends in a
    carriage return. -/
theorem lines_flatMap_eq_iff (ls : List (List UInt8)) :
    lines (ls.flatMap (· ++ [10])) = ls ↔ ∀ l ∈ ls, 10 ∉ l ∧ l.getLast? ≠ some 13 := by
  have hpos (l : List UInt8) : 0 < ((l.splitOn 10).map dropReturn).length := by
    rw [List.length_map]
    exact List.length_pos_iff.mpr (List.splitOn_ne_nil 10 l)
  have hlength (ls : List (List UInt8)) :
      ls.length ≤ (ls.flatMap fun l => (l.splitOn 10).map dropReturn).length := by
    induction ls with
    | nil => exact Nat.le_refl 0
    | cons l ls ih =>
      have := hpos l
      rw [List.flatMap_cons, List.length_append, List.length_cons]
      omega
  rw [lines_flatMap]
  induction ls with
  | nil => simp
  | cons l ls ih =>
    have hcons := splitOn_map_dropReturn_eq_singleton_iff l
    rw [List.flatMap_cons, List.forall_mem_cons]
    refine ⟨fun h => ?_, fun ⟨hl, hls⟩ => by rw [hcons.mpr hl, ih.mpr hls, List.singleton_append]⟩
    -- the parts of the first line cannot reach into the others, which need as much room themselves
    have hl : ((l.splitOn 10).map dropReturn).length = [l].length := by
      have := congrArg List.length h
      have := hlength ls
      have := hpos l
      simp only [List.length_append, List.length_cons, List.length_nil] at *
      omega
    obtain ⟨hfirst, hrest⟩ := List.append_inj (h.trans List.singleton_append.symm) hl
    exact ⟨hcons.mp hfirst, ih.mp hrest⟩

/-! ### Single lines -/

/-- A string that is one line wherever it is written. -/
def SingleLine (s : String) : Prop :=
  '\n' ∉ s.toList ∧ '\r' ∉ s.toList

instance (s : String) : Decidable (SingleLine s) :=
  inferInstanceAs (Decidable (_ ∧ _))

/-- Two texts put together are in one line if both are. -/
theorem singleLine_append (a b : String) :
    SingleLine (a ++ b) ↔ SingleLine a ∧ SingleLine b := by
  simp only [SingleLine, String.toList_append, List.mem_append, not_or]
  exact and_and_and_comm

/-- So are many, with separators between them. -/
theorem singleLine_intercalate {separator : String} (hseparator : SingleLine separator)
    {parts : List String} (h : ∀ part ∈ parts, SingleLine part) :
    SingleLine (separator.intercalate parts) := by
  induction parts with
  | nil => simp [SingleLine]
  | cons part parts ih =>
    have hparts := ih fun part' hpart' => h part' (List.mem_cons_of_mem _ hpart')
    cases parts with
    | nil => simpa using h part (by simp)
    | cons part' parts =>
      rw [String.intercalate_cons_cons, singleLine_append, singleLine_append]
      exact ⟨⟨h part (by simp), hseparator⟩, hparts⟩

/-- A text without blanks is in one line. -/
theorem SingleLine.of_forall_not_isBlank {s : String} (h : ∀ c ∈ s.toList, isBlank c = false) :
    SingleLine s := by
  refine ⟨fun hmem => ?_, fun hmem => ?_⟩
  · exact absurd (h _ hmem) (by decide)
  · exact absurd (h _ hmem) (by decide)

/-- Strings written with line feeds are read again if each is a line. -/
theorem lines_encode_eq_iff (ss : List String) :
    lines (ss.flatMap fun s => Utf8.encode s ++ [10]) = ss.map Utf8.encode ↔
      ∀ s ∈ ss, '\n' ∉ s.toList ∧ s.toList.getLast? ≠ some '\r' := by
  have hbytes : (ss.flatMap fun s => Utf8.encode s ++ [10]) =
      (ss.map Utf8.encode).flatMap (· ++ [10]) := by
    rw [List.flatMap_map]
  rw [hbytes, lines_flatMap_eq_iff, List.forall_mem_map]
  refine forall₂_congr fun s _ => ?_
  exact and_congr (not_congr (mem_encode_iff (c := '\n') (by decide) s))
    (not_congr (getLast?_encode_iff (c := '\r') (by decide) s))

end NavScript.Text
