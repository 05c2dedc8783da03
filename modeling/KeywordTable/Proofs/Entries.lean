import KeywordTable.Proofs.Lower
import KeywordTable.Proofs.Text
import KeywordTable.Table

/-!
# Reading Entries Back

The entries of a table stand one after the other on a line, with nothing
escaped. A word may hold quotes, braces, blanks and backslashes, and so may its
key. What can still be relied on is the comma: an entry has two of them, and
since a word has none and its key has none either, these are all.

Cutting the line at its commas therefore takes every entry apart into two
pieces, one with the key and one with the word, and leaves an empty piece after
the last. `split_entries` is that equation: the line is all the pieces in order,
each ended by a comma, and no piece has one in it. Position is all that is then
needed to read a word back, and the piece with the word has the word in it
verbatim, so no two lists of words make the same line.

## Main definitions

* `Word.keyPiece`: The part of an entry before its first comma.
* `Word.namePiece`: The part of an entry between its two commas.
* `Word.pieces`: Both parts of all entries.

## Theorems

* `not_mem_of_mem_pieces`: Characters that the pieces cannot have.
* `toList_entries`: Entries are their pieces, with a comma after each.
* `split_entries`: Cutting entries at commas gives their pieces.
* `getElem_pieces_even`, `getElem_pieces_odd`: The pieces by their position.
* `namePiece_injective`: A piece with a word in it tells which.
* `entries_decode`: Entries are read back by cutting them at commas.
-/

namespace KeywordTable

namespace Word

/-- The part of an entry before its first comma. -/
def keyPiece (word : Word) : List Char :=
  ("\x7b \"" ++ word.key ++ "\"").toList

/-- The part of an entry between its two commas. -/
def namePiece (word : Word) : List Char :=
  (" " ++ word.text ++ " \x7d").toList

@[simp] theorem toList_key (word : Word) : word.key.toList = Text.lower word.chars :=
  String.toList_ofList

@[simp] theorem toList_text (word : Word) : word.text.toList = word.chars :=
  String.toList_ofList

/-- A character that comes before `a` is in the first piece only if it is in
    the word or in the text around it, since lowering the word does not write
    it. -/
theorem not_mem_keyPiece {word : Word} {d : Char} (hlow : d.toNat < 0x61)
    (hframe : d ∉ "\x7b \"\x7d".toList) (hword : d ∉ word.chars) : d ∉ word.keyPiece := by
  have hkey : d ∉ Text.lower word.chars := Text.not_mem_lower hlow hword
  have hopen : "\x7b \"".toList ⊆ "\x7b \"\x7d".toList := by decide
  have hclose : "\"".toList ⊆ "\x7b \"\x7d".toList := by decide
  rw [keyPiece, String.toList_append, String.toList_append, toList_key, List.mem_append,
    List.mem_append]
  rintro ((hmem | hmem) | hmem)
  · exact hframe (hopen hmem)
  · exact hkey hmem
  · exact hframe (hclose hmem)

theorem not_mem_namePiece {word : Word} {d : Char} (hframe : d ∉ "\x7b \"\x7d".toList)
    (hword : d ∉ word.chars) : d ∉ word.namePiece := by
  have hopen : " ".toList ⊆ "\x7b \"\x7d".toList := by decide
  have hclose : " \x7d".toList ⊆ "\x7b \"\x7d".toList := by decide
  rw [namePiece, String.toList_append, String.toList_append, toList_text, List.mem_append,
    List.mem_append]
  rintro ((hmem | hmem) | hmem)
  · exact hframe (hopen hmem)
  · exact hword hmem
  · exact hframe (hclose hmem)

/-- An entry is its two pieces, with a comma after each. -/
theorem toList_entry (word : Word) :
    word.entry.toList = [word.keyPiece, word.namePiece].flatMap (· ++ [',']) := by
  -- The two commas stand in the middle of the fixed text.
  have hmid : "\", ".toList = "\"".toList ++ ',' :: " ".toList := by decide
  have hend : " \x7d,".toList = " \x7d".toList ++ [','] := by decide
  rw [entry, keyPiece, namePiece]
  simp only [String.toList_append, hmid, hend, List.flatMap_cons, List.flatMap_nil,
    List.append_assoc, List.cons_append, List.nil_append]

/-- The pieces of all entries, in order. -/
def pieces (words : List Word) : List (List Char) :=
  words.flatMap fun word => [word.keyPiece, word.namePiece]

theorem pieces_cons (word : Word) (words : List Word) :
    pieces (word :: words) = word.keyPiece :: word.namePiece :: pieces words := rfl

theorem toList_entries (words : List Word) :
    (entries words).toList = (pieces words).flatMap (· ++ [',']) := by
  rw [entries, String.toList_join, List.flatMap_map, pieces, List.flatMap_assoc]
  exact congrArg (List.flatMap · words) (funext toList_entry)

/-- A character that comes before `a` and is not part of the text around the
    words is in the pieces only if it is in a word. -/
theorem not_mem_of_mem_pieces {words : List Word} {d : Char} (hlow : d.toNat < 0x61)
    (hframe : d ∉ "\x7b \"\x7d".toList) (hwords : ∀ word ∈ words, d ∉ word.chars) :
    ∀ p ∈ pieces words, d ∉ p := by
  intro p hp
  rcases List.mem_flatMap.mp hp with ⟨word, hword, hmem⟩
  rcases List.mem_cons.mp hmem with rfl | hmem
  · exact not_mem_keyPiece hlow hframe (hwords word hword)
  · rw [List.mem_singleton.mp hmem]
    exact not_mem_namePiece hframe (hwords word hword)

/-- Cutting entries at commas gives their pieces and an empty one after them. -/
theorem split_entries (words : List Word) :
    Text.split ',' (entries words).toList = pieces words ++ [[]] := by
  rw [toList_entries]
  exact Text.split_terminated ',' (pieces words)
    (not_mem_of_mem_pieces (by decide) (by decide) fun word _ => word.isWord.no_comma)

theorem length_pieces (words : List Word) :
    (Text.split ',' (entries words).toList).length = 2 * words.length + 1 := by
  rw [split_entries]
  induction words with
  | nil => rfl
  | cons word words ih =>
      rw [pieces_cons, List.cons_append, List.cons_append, List.length_cons, List.length_cons,
        ih, List.length_cons]
      omega

/-- The pieces at even positions have the keys. -/
theorem getElem_pieces_even (words : List Word) (i : Nat) (hi : i < words.length) :
    (Text.split ',' (entries words).toList)[2 * i]? = some words[i].keyPiece := by
  rw [split_entries]
  induction words generalizing i with
  | nil => exact absurd hi (Nat.not_lt_zero i)
  | cons word words ih =>
      cases i with
      | zero => rfl
      | succ i =>
          rw [pieces_cons, show 2 * (i + 1) = 2 * i + 1 + 1 by omega]
          exact ih i (Nat.lt_of_succ_lt_succ hi)

/-- The pieces at odd positions have the words, and there are no more of them
    than there are words. -/
theorem getElem_pieces_odd (words : List Word) (i : Nat) :
    (Text.split ',' (entries words).toList)[2 * i + 1]? = words[i]?.map namePiece := by
  rw [split_entries]
  induction words generalizing i with
  | nil => rfl
  | cons word words ih =>
      cases i with
      | zero => rfl
      | succ i =>
          rw [pieces_cons, show 2 * (i + 1) + 1 = 2 * i + 1 + 1 + 1 by omega]
          exact ih i

/-- A piece with a word in it tells which. -/
theorem namePiece_injective : Function.Injective namePiece := by
  intro v w h
  rw [namePiece, namePiece, String.toList_append, String.toList_append, String.toList_append,
    String.toList_append] at h
  have htext : v.text.toList = w.text.toList :=
    List.append_cancel_left (List.append_cancel_right h)
  rw [toList_text, toList_text] at htext
  cases v
  cases w
  cases htext
  rfl

/-- No two lists of words make the same entries. -/
theorem entries_injective : Function.Injective entries := by
  intro vs ws h
  apply List.ext_getElem?
  intro i
  -- The words at an index are told apart by the pieces at an odd position.
  have hpiece : vs[i]?.map namePiece = ws[i]?.map namePiece := by
    rw [← getElem_pieces_odd, ← getElem_pieces_odd, h]
  exact Option.map_injective namePiece_injective hpiece

/-- Entries are read back by cutting them at commas: the pieces come in pairs,
    a key between quotes and the word that it belongs to, and an empty piece
    ends them. So no word is lost, nor how often and in which order it occurs. -/
theorem entries_decode (words : List Word) :
    (Text.split ',' (entries words).toList).length = 2 * words.length + 1 ∧
    (Text.split ',' (entries words).toList).getLast? = some [] ∧
    (∀ i : Fin words.length,
      (Text.split ',' (entries words).toList)[2 * i.val]? =
        some ("\x7b \"" ++ words[i.val].key ++ "\"").toList ∧
      (Text.split ',' (entries words).toList)[2 * i.val + 1]? =
        some (" " ++ words[i.val].text ++ " \x7d").toList) ∧
    Function.Injective entries := by
  refine ⟨length_pieces words, ?_, ?_, entries_injective⟩
  · rw [split_entries]
    exact List.getLast?_concat
  · rintro ⟨i, hi⟩
    refine ⟨getElem_pieces_even words i hi, ?_⟩
    rw [getElem_pieces_odd, List.getElem?_eq_getElem hi]
    rfl

-- A word may look like an entry itself.
example : (Word.ofLine? "x\" \x7d\x7b \"y, 1".toList).toList.map Word.entry =
    ["\x7b \"x\" \x7d\x7b \"y\", x\" \x7d\x7b \"y \x7d,"] := by decide +kernel

end Word

end KeywordTable
