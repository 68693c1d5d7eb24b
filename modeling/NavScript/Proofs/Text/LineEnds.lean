import NavScript.Proofs.Text.Utf8

namespace NavScript.Text

/-!
# The lines of a text

Cutting the bytes of a text into lines and cutting the text itself comes to the same, since a line
feed is never part of another character.  Written line by line, a text has just these lines,
whatever blanks stand in front of their ends.

* `withoutReturn`, `linesOf` — the lines of a text
* `lines_encode` — the lines of its bytes
* `linesOf_append_lineFeed`, `linesOf_of_notMem` — a text line by line
-/

/-- A line without the carriage return of its line end. -/
def withoutReturn (cs : List Char) : List Char :=
  if cs.getLast? = some '\r' then cs.dropLast else cs

/-- The lines of a text: every part before a line feed, and what stands after the last one unless
    that is nothing. -/
def linesOf (s : String) : List String :=
  let parts := s.toList.splitOn '\n'
  (parts.dropLast.map withoutReturn ++ parts.getLast?.toList.filter (!·.isEmpty)).map String.ofList

/-! ### Lines of bytes -/

/-- What a separator is not in stays together, in front of the next one. -/
theorem splitOn_append_of_notMem {α : Type} [BEq α] [LawfulBEq α] {a : α} {xs : List α} (h : a ∉ xs)
    (ys : List α) : (xs ++ ys).splitOn a = (ys.splitOn a).modifyHead (xs ++ ·) := by
  induction xs with
  | nil => cases hys : ys.splitOn a <;> simp [hys]
  | cons x xs ih =>
    obtain ⟨hx, hxs⟩ := not_or.mp (mt List.mem_cons.mpr h)
    have hcons : (x :: (xs ++ ys)).splitOn a = ((xs ++ ys).splitOn a).modifyHead (x :: ·) := by
      refine (List.splitOnP_cons_eq_if_modifyHead x (xs ++ ys)).trans (if_neg ?_)
      simpa using Ne.symm hx
    rw [List.cons_append, hcons, ih hxs, List.modifyHead_modifyHead]
    rfl

/-- The bytes of characters. -/
theorem encode_ofList (cs : List Char) :
    Utf8.encode (String.ofList cs) = cs.flatMap String.utf8EncodeChar := by
  rw [encode_eq_flatMap, String.toList_ofList]

/-- The parts of the bytes are the bytes of the parts. -/
theorem splitOn_flatMap_utf8EncodeChar (cs : List Char) :
    (cs.flatMap String.utf8EncodeChar).splitOn 10 =
      (cs.splitOn '\n').map (·.flatMap String.utf8EncodeChar) := by
  induction cs with
  | nil => rfl
  | cons c cs ih =>
    by_cases hc : c = '\n'
    · subst hc
      have hbytes := List.splitOn_append_cons_self (a := (10 : UInt8)) []
        (cs.flatMap String.utf8EncodeChar)
      have hchars := List.splitOn_append_cons_self (a := '\n') [] cs
      rw [List.nil_append, List.splitOn_nil] at hbytes hchars
      rw [hchars, List.map_append, ← ih]
      exact hbytes
    · have hnone : (10 : UInt8) ∉ String.utf8EncodeChar c := fun hmem =>
        hc (eq_of_mem_utf8EncodeChar (c := '\n') (by decide) hmem)
      have hlineFeed : '\n' ∉ [c] := by simpa using Ne.symm hc
      have hchars := splitOn_append_of_notMem hlineFeed cs
      rw [List.flatMap_cons, splitOn_append_of_notMem hnone, ih, ← List.singleton_append, hchars]
      cases cs.splitOn '\n' <;> rfl

theorem dropReturn_flatMap (cs : List Char) :
    dropReturn (cs.flatMap String.utf8EncodeChar) =
      (withoutReturn cs).flatMap String.utf8EncodeChar := by
  have hlast : (cs.flatMap String.utf8EncodeChar).getLast? = some 13 ↔ cs.getLast? = some '\r' := by
    have h := getLast?_encode_iff (c := '\r') (by decide) (String.ofList cs)
    rwa [encode_ofList, String.toList_ofList] at h
  rw [dropReturn, withoutReturn]
  by_cases hreturn : cs.getLast? = some '\r'
  · rw [if_pos hreturn, if_pos (hlast.mpr hreturn)]
    obtain ⟨front, rfl⟩ := List.getLast?_eq_some_iff.mp hreturn
    rw [List.flatMap_append, List.flatMap_singleton, utf8EncodeChar_of_lt (by decide),
      List.dropLast_concat, List.dropLast_concat]
  · rw [if_neg hreturn, if_neg (mt hlast.mp hreturn)]

theorem isEmpty_flatMap_utf8EncodeChar (cs : List Char) :
    (cs.flatMap String.utf8EncodeChar).isEmpty = cs.isEmpty := by
  cases cs with
  | nil => rfl
  | cons c cs =>
    have hne := String.utf8EncodeChar_ne_nil (c := c)
    simp [hne]

/-- **The lines of the bytes** are the bytes of the lines. -/
theorem lines_encode (s : String) : lines (Utf8.encode s) = (linesOf s).map Utf8.encode := by
  have hlast : ∀ last : Option (List Char),
      (last.map (·.flatMap String.utf8EncodeChar)).toList.filter (!·.isEmpty) =
        (last.toList.filter (!·.isEmpty)).map (·.flatMap String.utf8EncodeChar) := by
    intro last
    cases last with
    | none => rfl
    | some cs =>
      have hempty := isEmpty_flatMap_utf8EncodeChar cs
      cases hcs : cs.isEmpty <;> simp [hempty, hcs]
  have hparts := splitOn_flatMap_utf8EncodeChar s.toList
  rw [← encode_eq_flatMap] at hparts
  rw [lines, linesOf, hparts, ← List.map_dropLast, List.getLast?_map, hlast, List.map_map,
    List.map_map, List.map_append, List.map_map]
  congr 1
  · exact List.map_congr_left fun cs _ => (dropReturn_flatMap cs).trans (encode_ofList _).symm
  · exact List.map_congr_left fun cs _ => (encode_ofList cs).symm

/-! ### Texts line by line -/

/-- A line feed ends the line in front of it. -/
theorem linesOf_append_lineFeed {line : String} (h : '\n' ∉ line.toList) (rest : String) :
    linesOf (line ++ "\n" ++ rest) = String.ofList (withoutReturn line.toList) :: linesOf rest := by
  have hne := List.splitOn_ne_nil '\n' rest.toList
  have hparts : (line ++ "\n" ++ rest).toList.splitOn '\n' =
      line.toList :: rest.toList.splitOn '\n' := by
    have hsplit := List.splitOn_append_cons_self (a := '\n') line.toList rest.toList
    rw [List.splitOn_eq_singleton h] at hsplit
    simpa using hsplit
  rw [linesOf, linesOf, hparts, List.dropLast_cons_of_ne_nil hne, List.getLast?_cons,
    List.getLast?_eq_some_getLast hne]
  rfl

/-- What no line feed ends is a line unless it is nothing. -/
theorem linesOf_of_notMem {last : String} (h : '\n' ∉ last.toList) :
    linesOf last = if last = "" then [] else [last] := by
  rw [linesOf, List.splitOn_eq_singleton h]
  by_cases hlast : last = ""
  · simp [hlast]
  · simp [hlast]

end NavScript.Text
