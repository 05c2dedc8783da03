import KeywordTable.Text.Basic

/-!
# Searching and Cutting

What searching and cutting a text come to, in the terms that the library has
for lists.

`Text.occursIn` looks for a marker from the left, one starting place after the
other. That is the decision procedure of the infix relation, and everything
said about markers is said with the relation.

`Text.split` is a fold that glues characters onto the piece to their right. It
agrees with `List.splitOn`, so what is known of that carries over: a piece ends
at the first separator, and no piece has a separator in it. The second of these
is why a line never has a line feed in it, whatever carriage returns and other
separators the text may hold.

A text can be taken apart at any line feed and its lines with it, as long as the
line feed stays with what it ends. `WholeLines` is that condition on the first
part.

## Main definitions

* `WholeLines`: The text has no line that is not ended.

## Theorems

* `occursIn_iff`: Searching decides the infix relation.
* `split_eq_splitOn`: Cutting is `List.splitOn`.
* `split_append`: A separator parts the pieces before it from those after it.
* `split_append_sep`: The first piece ends at the first separator.
* `split_terminated`: Cutting undoes ending each piece with a separator.
* `head_split`: The first piece is what stands before any separator.
* `not_mem_of_mem_split`: A piece has no separator in it.
* `mem_of_mem_split`: A piece has only characters of the text.
* `length_split`: There is one piece more than there are separators.
* `not_mem_of_mem_lines`: A line has no line feed in it.
* `mem_of_mem_lines`: A line has only characters of the text.
* `lines_append`: Whole lines stay the same, whatever comes after them.
-/

namespace KeywordTable

namespace Text

/-- Searching decides the infix relation. -/
theorem occursIn_iff (needle cs : List Char) : occursIn needle cs = true ↔ needle <:+: cs := by
  induction cs with
  | nil => rw [occursIn, List.isEmpty_iff, List.infix_nil]
  | cons c cs ih =>
      rw [occursIn, Bool.or_eq_true, List.isPrefixOf_iff_prefix, ih, List.infix_cons_iff]

/-- Cutting is `List.splitOn`. -/
theorem split_eq_splitOn (sep : Char) (cs : List Char) : split sep cs = cs.splitOn sep := by
  induction cs with
  | nil => rfl
  | cons c cs ih =>
      have hstep : split sep (c :: cs) = addToPieces sep c (split sep cs) := rfl
      rw [hstep, ih, List.splitOn_cons_eq_if_modifyHead]
      unfold addToPieces
      by_cases hc : c = sep
      · rw [if_pos hc, if_pos (beq_iff_eq.mpr hc)]
      · rw [if_neg hc, if_neg (by rwa [beq_iff_eq])]
        -- There is always a piece that the character can join.
        cases hps : cs.splitOn sep with
        | nil => exact absurd hps (List.splitOn_ne_nil sep cs)
        | cons p rest => rfl

/-- A separator parts the pieces before it from those after it. -/
theorem split_append (sep : Char) (xs ys : List Char) :
    split sep (xs ++ sep :: ys) = split sep xs ++ split sep ys := by
  rw [split_eq_splitOn, split_eq_splitOn, split_eq_splitOn]
  exact List.splitOn_append_cons_self xs ys

/-- There is always a piece. -/
theorem split_ne_nil (sep : Char) (cs : List Char) : split sep cs ≠ [] := by
  rw [split_eq_splitOn]
  exact List.splitOn_ne_nil sep cs

/-- The first piece ends at the first separator. -/
theorem split_append_sep (sep : Char) (xs ys : List Char) (h : sep ∉ xs) :
    split sep (xs ++ sep :: ys) = xs :: split sep ys := by
  rw [split_eq_splitOn, split_eq_splitOn]
  exact List.splitOn_append_cons_self_of_not_mem h ys

/-- Pieces that were each ended by a separator are what cutting gives back,
    with an empty piece after the last separator. -/
theorem split_terminated (sep : Char) (ps : List (List Char)) (h : ∀ p ∈ ps, sep ∉ p) :
    split sep (ps.flatMap (· ++ [sep])) = ps ++ [[]] := by
  induction ps with
  | nil => rfl
  | cons p ps ih =>
      rw [List.flatMap_cons, List.append_assoc, List.singleton_append,
        split_append_sep sep p _ (h p List.mem_cons_self),
        ih fun q hq => h q (List.mem_cons_of_mem p hq), List.cons_append]

/-- Taking one character more either opens a piece or makes the first one
    longer. -/
theorem split_cons (sep c : Char) (cs : List Char) :
    split sep (c :: cs) = if c = sep then [] :: split sep cs
      else (split sep cs).modifyHead (List.cons c) := by
  simp only [split_eq_splitOn, List.splitOn_cons_eq_if_modifyHead, beq_iff_eq]

/-- The first piece is what stands before any separator. -/
theorem head_split (sep : Char) (cs : List Char) :
    (split sep cs).head? = some (cs.takeWhile (· != sep)) := by
  induction cs with
  | nil => rfl
  | cons c cs ih =>
      rw [split_cons]
      by_cases hc : c = sep
      · rw [if_pos hc, List.takeWhile_cons_of_neg (by simp only [hc, bne_self_eq_false,
          Bool.false_eq_true, not_false_eq_true])]
        rfl
      · rw [if_neg hc, List.head?_modifyHead, ih,
          List.takeWhile_cons_of_pos (by simp only [bne_iff_ne, ne_eq, hc, not_false_eq_true])]
        rfl

/-- A piece of a text with one character more is empty, or was a piece before,
    or was one that the character has joined. -/
theorem mem_split_cons {sep c : Char} {cs p : List Char} (h : p ∈ split sep (c :: cs)) :
    p = [] ∨ p ∈ split sep cs ∨ (c ≠ sep ∧ ∃ q ∈ split sep cs, p = c :: q) := by
  rw [split_cons] at h
  by_cases hc : c = sep
  · rw [if_pos hc, List.mem_cons] at h
    rcases h with h | h
    · exact Or.inl h
    · exact Or.inr (Or.inl h)
  · rw [if_neg hc] at h
    cases hps : split sep cs with
    | nil => exact absurd hps (split_ne_nil sep cs)
    | cons q rest =>
        rw [hps, List.modifyHead_cons, List.mem_cons] at h
        -- Only the first piece has changed.
        rcases h with h | h
        · exact Or.inr (Or.inr ⟨hc, q, List.mem_cons_self, h⟩)
        · exact Or.inr (Or.inl (List.mem_cons_of_mem q h))

/-- A piece has no separator in it. -/
theorem not_mem_of_mem_split (sep : Char) (cs p : List Char) (h : p ∈ split sep cs) :
    sep ∉ p := by
  induction cs generalizing p with
  | nil =>
      rw [List.mem_singleton.mp h]
      exact List.not_mem_nil
  | cons c cs ih =>
      rcases mem_split_cons h with rfl | h | ⟨hc, q, hq, rfl⟩
      · exact List.not_mem_nil
      · exact ih p h
      · rw [List.mem_cons, not_or]
        exact ⟨fun h => hc h.symm, ih q hq⟩

/-- A piece has no characters that the text does not have. -/
theorem mem_of_mem_split {sep d : Char} {cs p : List Char} (h : p ∈ split sep cs) (hd : d ∈ p) :
    d ∈ cs := by
  induction cs generalizing p with
  | nil =>
      rw [List.mem_singleton.mp h] at hd
      exact hd
  | cons c cs ih =>
      rcases mem_split_cons h with rfl | h | ⟨-, q, hq, rfl⟩
      · exact absurd hd List.not_mem_nil
      · exact List.mem_cons_of_mem c (ih h hd)
      · rcases List.mem_cons.mp hd with rfl | hd
        · exact List.mem_cons_self
        · exact List.mem_cons_of_mem c (ih hq hd)

/-- There is one piece more than there are separators. -/
theorem length_split (sep : Char) (cs : List Char) :
    (split sep cs).length = cs.count sep + 1 := by
  induction cs with
  | nil => rfl
  | cons c cs ih =>
      rw [split_cons]
      by_cases hc : c = sep
      · rw [if_pos hc, hc, List.length_cons, ih, List.count_cons_self]
      · rw [if_neg hc, List.length_modifyHead, ih, List.count_cons_of_ne hc]

theorem mem_of_mem_dropReturn {c : Char} {cs : List Char} (h : c ∈ dropReturn cs) : c ∈ cs := by
  unfold dropReturn at h
  split at h
  · exact (List.dropLast_sublist cs).mem h
  · exact h

/-- A line is a piece of the text, perhaps without a carriage return at its
    end. -/
theorem exists_piece_of_mem_lines {cs line : List Char} (h : line ∈ lines cs) :
    ∃ p ∈ split '\n' cs, ∀ c ∈ line, c ∈ p := by
  rw [lines, List.mem_append, List.mem_map] at h
  rcases h with ⟨p, hp, rfl⟩ | h
  · exact ⟨p, (List.dropLast_sublist _).mem hp, fun _ => mem_of_mem_dropReturn⟩
  · have hlast : (split '\n' cs).getLast? = some line :=
      Option.mem_toList.mp (List.mem_filter.mp h).1
    exact ⟨line, List.mem_of_getLast? hlast, fun _ hc => hc⟩

/-- A line has no line feed in it. What a line loses at its end makes no
    difference to that. -/
theorem not_mem_of_mem_lines (cs line : List Char) (h : line ∈ lines cs) : '\n' ∉ line := by
  rcases exists_piece_of_mem_lines h with ⟨p, hp, hsub⟩
  intro hmem
  exact not_mem_of_mem_split '\n' cs p hp (hsub _ hmem)

/-- A line has no characters that the text does not have. -/
theorem mem_of_mem_lines {c : Char} {cs line : List Char} (h : line ∈ lines cs) (hc : c ∈ line) :
    c ∈ cs := by
  rcases exists_piece_of_mem_lines h with ⟨p, hp, hsub⟩
  exact mem_of_mem_split hp (hsub c hc)

/-- The text is empty or ends in a line feed. -/
def WholeLines (cs : List Char) : Prop :=
  cs = [] ∨ cs.getLast? = some '\n'

/-- What stands before a line feed is ended by it, and lines after it do not
    know of that. -/
theorem lines_append_newline (xs ys : List Char) :
    lines (xs ++ '\n' :: ys) = (split '\n' xs).map dropReturn ++ lines ys := by
  have hne := split_ne_nil '\n' ys
  unfold lines
  simp only [split_append, List.dropLast_append_of_ne_nil hne, List.getLast?_append,
    List.map_append, List.append_assoc]
  -- The last piece is one of those after the line feed.
  rw [List.getLast?_eq_some_getLast hne, Option.some_or]

/-- Whole lines stay the same, whatever comes after them. -/
theorem lines_append {xs : List Char} (h : WholeLines xs) (ys : List Char) :
    lines (xs ++ ys) = lines xs ++ lines ys := by
  rcases h with rfl | h
  · rfl
  · rcases List.getLast?_eq_some_iff.mp h with ⟨front, rfl⟩
    have hempty : lines [] = [] := rfl
    rw [List.append_assoc, List.singleton_append, lines_append_newline, lines_append_newline,
      hempty, List.append_nil]

end Text

end KeywordTable
