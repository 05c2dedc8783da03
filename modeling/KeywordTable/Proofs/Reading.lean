import KeywordTable.Proofs.Values
import Mathlib.Data.List.DropRight

/-!
# Reading Documents

A document is read line by line. Each line is what it says, the rest that says
nothing, and a line ending or the end of the text; `Ends` joins the last two, so
that a line is treated once and not once for the last line and once for the
others.

The reader counts down from the length of the text. A line ending is at least
one character, so the count never runs out before the text does.

## Main definitions

* `Ends`: The end of a line, and what stands after it.

## Theorems

* `header_isPath`: A header is read as its path.
* `statement_isLine`: A line is read as what it says.
* `statementsFrom_isDocument`: Lines are read one after the other.
* `exists_statements`: A document is read as its lines.
-/

namespace KeywordTable

namespace Toml

/-! ### Lines and documents -/

/-- The text says nothing more up to the end of its first line, after which the
    rest stands. -/
inductive Ends : List Char → List Char → Prop
  | text {tail : List Char} (hend : IsEnd tail) : Ends tail []
  | line {tail ending : List Char} (hend : IsEnd tail) (hending : IsNewline ending)
    (rest : List Char) : Ends (tail ++ (ending ++ rest)) rest

theorem lineEnd_ends {cs rest : List Char} (h : Ends cs rest) : lineEnd cs = some rest := by
  cases h with
  | text hend => exact lineEnd_end hend
  | line hend hending => exact lineEnd_append hend hending rest

theorem delimited_blank {blanks : List Char} (h : Blank blanks) : Delimited blanks := by
  intro c hc
  rcases h c (List.mem_of_mem_head? hc) with rfl | rfl
  · decide
  · decide

/-- A value may be followed by the end of its line. -/
theorem follows_ends {cs rest : List Char} (h : Ends cs rest) : Follows cs := by
  cases h with
  | text hend =>
      cases hend with
      | blank h =>
          refine ⟨delimited_blank h, ?_⟩
          rintro after rfl
          exact delimited_blank (List.forall_mem_cons.mp h).2
      | comment hblanks _ => exact follows_gap (gap_of_blank hblanks) (by decide) (by decide) _
  | line hend hending =>
      cases hend with
      | blank h =>
          rcases hending with rfl | rfl
          · exact follows_gap (gap_of_blank h) (by decide) (by decide) _
          · exact follows_gap (gap_of_blank h) (by decide) (by decide) _
      | comment hblanks _ =>
          rw [List.append_assoc, List.cons_append]
          exact follows_gap (gap_of_blank hblanks) (by decide) (by decide) _

/-- A header is read as its path. -/
theorem header_isPath {key : List Char} {path : List String} (hpath : IsPath key path)
    (hlimit : path.length ≤ maxDepth) (rest : List Char) :
    ∃ h, header ('[' :: (key ++ ']' :: rest)) = some (h, rest) ∧ h.path.names = path ∧
      h.isArray = false := by
  have hends : PathEnds (']' :: rest) := ⟨']', rest, rfl, Or.inr rfl⟩
  rcases keyPath_isPath hpath hlimit hends with ⟨keys, hkeys, hnames⟩
  refine ⟨⟨keys, false, { start := '[' :: (key ++ ']' :: rest), stop := rest }⟩, ?_, hnames, rfl⟩
  -- With a second bracket it would be the header of an array.
  have hsingle : ∀ t, key ++ ']' :: rest ≠ '[' :: t := by
    rcases indented_isPath hpath with ⟨blanks, c, u, rfl, hblanks, hc, -⟩
    intro t heq
    cases blanks with
    | nil =>
        rw [List.head_eq_of_cons_eq heq] at hc
        exact not_startsKey '[' (by decide) hc
    | cons b blanks =>
        have hb := hblanks b List.mem_cons_self
        rw [List.head_eq_of_cons_eq heq] at hb
        exact absurd hb (by decide)
  unfold header
  split
  · next heq => exact absurd (List.tail_eq_of_cons_eq heq) (hsingle _)
  · next heq =>
      rw [← List.tail_eq_of_cons_eq heq]
      simp only [hkeys, expect_cons, Option.bind_eq_bind, Option.bind_some]
      rfl
  · next h => exact absurd rfl (h _)

/-- A header in double brackets is read as its path. -/
theorem header_array {key : List Char} {path : List String} (hpath : IsPath key path)
    (hlimit : path.length ≤ maxDepth) (rest : List Char) :
    ∃ h, header ('[' :: '[' :: (key ++ ']' :: ']' :: rest)) = some (h, rest) ∧
      h.path.names = path ∧ h.isArray = true := by
  have hends : PathEnds (']' :: ']' :: rest) := ⟨']', _, rfl, Or.inr rfl⟩
  rcases keyPath_isPath hpath hlimit hends with ⟨keys, hkeys, hnames⟩
  refine ⟨⟨keys, true, { start := '[' :: '[' :: (key ++ ']' :: ']' :: rest), stop := rest }⟩, ?_,
    hnames, rfl⟩
  unfold header
  simp only [hkeys, expect_cons, Option.bind_eq_bind, Option.bind_some]
  rfl

/-- A line is read as what it says, once the blanks before it are passed
    over. -/
theorem statement_isLine {cs : List Char} {line : Line} (h : IsLine maxDepth cs line)
    {after : List Char} (hafter : Follows after) :
    ∃ c t s, skipSpace (cs ++ after) = c :: t ∧ c ∉ ['#', '\r', '\n'] ∧
      statement (c :: t) = some (s, after) ∧ s.Agrees line := by
  cases h with
  | pair h =>
      -- After the blanks a key begins, so this is no comment and no header.
      rcases indented_isPair h with ⟨blanks, c, t, rfl, hblanks, hc, h⟩
      rcases pair_isPair (reads_isValue maxDepth) h hafter with ⟨p, hp, hagrees⟩
      refine ⟨c, t ++ after, .pair p, ?_, ?_, ?_, .pair hagrees⟩
      · rw [List.append_assoc, List.cons_append, skipSpace_startsKey hblanks hc]
      · intro hmem
        have hsub : ∀ d ∈ ['#', '\r', '\n'],
            d ∈ [' ', '\t', '#', '\r', '\n', '[', '\x7d', '\ufeff'] :=
          forall_of_all (by decide)
        exact not_startsKey c (hsub c hmem) hc
      · unfold statement
        split
        · next heq =>
            rw [List.head_eq_of_cons_eq heq] at hc
            exact absurd hc (not_startsKey '[' (by decide))
        · rw [← List.cons_append, hp]
          rfl
  | @header blanks key path hblanks hpath hlimit =>
      -- One bracket is a table, and a second one an array of tables.
      rcases header_isPath hpath hlimit after with ⟨h, hread, hnames, harray⟩
      refine ⟨'[', key ++ ']' :: after, .header h, ?_, by decide, ?_, .header hnames harray⟩
      · simp only [List.append_assoc, List.cons_append, List.nil_append]
        exact skipSpace_append hblanks (unblank_cons (by decide) _)
      · rw [statement, hread]
        rfl
  | @arrayHeader blanks key path hblanks hpath hlimit =>
      rcases header_array hpath hlimit after with ⟨h, hread, hnames, harray⟩
      refine ⟨'[', '[' :: (key ++ ']' :: ']' :: after), .header h, ?_, by decide, ?_,
        .header hnames harray⟩
      · simp only [List.append_assoc, List.cons_append, List.nil_append]
        exact skipSpace_append hblanks (unblank_cons (by decide) _)
      · rw [statement, hread]
        rfl

/-- A text that says nothing more on its first line has nothing but blanks, or
    goes on with a comment or a line ending. -/
theorem skipSpace_ends {cs rest : List Char} (h : Ends cs rest) :
    skipSpace cs = [] ∧ rest = [] ∨
      ∃ c t, skipSpace cs = c :: t ∧ (c = '#' ∨ c = '\r' ∨ c = '\n') := by
  cases h with
  | text hend =>
      cases hend with
      | blank h =>
          exact Or.inl ⟨List.dropWhile_eq_nil_iff.mpr fun c hc => (isSpace_iff c).mpr (h c hc), rfl⟩
      | comment hblanks _ =>
          exact Or.inr ⟨'#', _, skipSpace_append hblanks (unblank_cons (by decide) _), Or.inl rfl⟩
  | line hend hending =>
      refine Or.inr ?_
      cases hend with
      | blank h =>
          rw [skipSpace_append h (newline_unblank hending rest)]
          rcases hending with rfl | rfl
          · exact ⟨'\n', rest, rfl, Or.inr (Or.inr rfl)⟩
          · exact ⟨'\r', '\n' :: rest, rfl, Or.inr (Or.inl rfl)⟩
      | comment hblanks _ =>
          rw [List.append_assoc, List.cons_append]
          exact ⟨'#', _, skipSpace_append hblanks (unblank_cons (by decide) _), Or.inl rfl⟩

/-- The end of a line does not depend on the blanks before it. -/
theorem lineEnd_skipSpace (cs : List Char) : lineEnd (skipSpace cs) = lineEnd cs := by
  unfold lineEnd skipSpace
  rw [List.dropWhile_idempotent]

theorem statementsFrom_ends {cs rest : List Char} (h : Ends cs rest) {fuel : Nat}
    {sts : List Statement} (hrest : statementsFrom fuel rest = some sts) :
    statementsFrom (fuel + 1) cs = some sts := by
  have hend := lineEnd_ends h
  rw [← lineEnd_skipSpace] at hend
  rw [statementsFrom]
  rcases skipSpace_ends h with ⟨hskip, rfl⟩ | ⟨c, t, hskip, hc⟩
  · -- The text is at its end, and so is what was read of the rest.
    rw [hskip]
    cases fuel with
    | zero => cases hrest
    | succ fuel => exact hrest
  · rw [hskip] at hend ⊢
    simp only [if_pos hc, hend, Option.bind_eq_bind, Option.bind_some, hrest]

theorem statementsFrom_line {cs : List Char} {line : Line} (hline : IsLine maxDepth cs line)
    {after rest : List Char} (h : Ends after rest) {fuel : Nat} {sts : List Statement}
    (hrest : statementsFrom fuel rest = some sts) :
    ∃ s, statementsFrom (fuel + 1) (cs ++ after) = some (s :: sts) ∧ s.Agrees line := by
  rcases statement_isLine hline (follows_ends h) with ⟨c, t, s, hskip, hc, hread, hagrees⟩
  have hnot : ¬ (c = '#' ∨ c = '\r' ∨ c = '\n') := by
    simpa only [List.mem_cons, List.not_mem_nil, or_false] using hc
  refine ⟨s, ?_, hagrees⟩
  rw [statementsFrom, hskip]
  simp only [if_neg hnot, hread, lineEnd_ends h, hrest, Option.bind_eq_bind, Option.bind_some]
  rfl

/-- A line has at least one character, and it is none that a document could not
    have at its start. -/
theorem head_isLine {cs : List Char} {line : Line} (h : IsLine maxDepth cs line) :
    ∃ c t, cs = c :: t ∧ c ≠ '\ufeff' := by
  have hindented : ∀ {blanks t : List Char} {d : Char}, Blank blanks → d ≠ '\ufeff' →
      ∃ c t', blanks ++ d :: t = c :: t' ∧ c ≠ '\ufeff' := by
    intro blanks t d hblanks hd
    cases blanks with
    | nil => exact ⟨d, t, rfl, hd⟩
    | cons b blanks =>
        refine ⟨b, blanks ++ d :: t, rfl, ?_⟩
        rcases hblanks b List.mem_cons_self with rfl | rfl <;> decide
  cases h with
  | pair h =>
      rcases indented_isPair h with ⟨blanks, c, t, rfl, hblanks, hc, -⟩
      refine hindented hblanks ?_
      rintro rfl
      exact not_startsKey '\ufeff' (by decide) hc
  | header hblanks _ _ => exact hindented hblanks (by decide)
  | arrayHeader hblanks _ _ => exact hindented hblanks (by decide)

theorem length_newline {ending : List Char} (h : IsNewline ending) : 0 < ending.length := by
  rcases h with rfl | rfl
  · exact Nat.one_pos
  · exact Nat.two_pos

/-- A document is read line by line. -/
theorem statementsFrom_isDocument {cs : List Char} {lines : List Line}
    (h : IsDocument maxDepth cs lines) {fuel : Nat} (hfuel : cs.length < fuel) :
    ∃ sts, statementsFrom fuel cs = some sts ∧ List.Forall₂ Statement.Agrees sts lines := by
  have hnil : ∀ fuel, statementsFrom (fuel + 1) [] = some [] := fun _ => rfl
  have htwo : ∀ {c : Char} {t : List Char} {fuel}, (c :: t).length < fuel → 2 ≤ fuel :=
    fun h => Nat.succ_le_of_lt (Nat.lt_of_le_of_lt (Nat.succ_le_succ (Nat.zero_le _)) h)
  -- Each line takes one unit of fuel and at least one character of the text.
  induction h generalizing fuel with
  | @done cs hend =>
      refine ⟨[], ?_, .nil⟩
      cases cs with
      | nil =>
          cases fuel with
          | zero => cases hfuel
          | succ fuel => exact hnil fuel
      | cons c cs =>
          -- One step passes over the tail, and one more finds the end.
          rcases Nat.exists_eq_add_of_le' (htwo hfuel) with ⟨k, rfl⟩
          exact statementsFrom_ends (.text hend) (hnil k)
  | last hline hend =>
      -- A line has a key or a bracket, so here too there are two steps.
      rcases head_isLine hline with ⟨c, t, rfl, -⟩
      rcases Nat.exists_eq_add_of_le' (htwo hfuel) with ⟨k, rfl⟩
      rcases statementsFrom_line hline (.text hend) (hnil k) with ⟨s, hs, hagrees⟩
      exact ⟨[s], hs, .cons hagrees .nil⟩
  | @skip tail ending rest lines hend hending _ ih =>
      -- A line ending is not empty, so what comes after it is shorter.
      have hlength := length_newline hending
      rw [List.length_append, List.length_append] at hfuel
      cases fuel with
      | zero => cases hfuel
      | succ fuel =>
          have hrest : rest.length < fuel := by omega
          rcases ih hrest with ⟨sts, hsts, hagrees⟩
          exact ⟨sts, statementsFrom_ends (.line hend hending _) hsts, hagrees⟩
  | @cons cs tail ending rest line lines hline hend hending _ ih =>
      have hlength := length_newline hending
      rw [List.length_append, List.length_append, List.length_append] at hfuel
      cases fuel with
      | zero => cases hfuel
      | succ fuel =>
          have hrest : rest.length < fuel := by omega
          rcases ih hrest with ⟨sts, hsts, hall⟩
          -- The line is read in front of what the rest is read as.
          rcases statementsFrom_line hline (.line hend hending _) hsts with ⟨s, hs, hagrees⟩
          exact ⟨s :: sts, hs, .cons hagrees hall⟩

/-- A document does not begin with a byte order mark. -/
theorem ne_mark {cs : List Char} {lines : List Line} (h : IsDocument maxDepth cs lines)
    (t : List Char) : cs ≠ '\ufeff' :: t := by
  have hends : ∀ {cs rest}, Ends cs rest → cs ≠ '\ufeff' :: t := by
    rintro cs rest h rfl
    have hskip := skipSpace_of_unblank (unblank_cons (c := '\ufeff') (by decide) t)
    rcases skipSpace_ends h with ⟨hnil, -⟩ | ⟨c, u, hcons, hc⟩
    · rw [hskip] at hnil
      cases hnil
    · rw [hskip] at hcons
      rw [← List.head_eq_of_cons_eq hcons] at hc
      revert hc
      decide
  have hlines : ∀ {cs line}, IsLine maxDepth cs line → ∀ rest, cs ++ rest ≠ '\ufeff' :: t := by
    intro cs line h rest heq
    rcases head_isLine h with ⟨c, u, rfl, hc⟩
    exact hc (List.head_eq_of_cons_eq heq)
  cases h with
  | done hend => exact hends (.text hend)
  | last hline _ => exact hlines hline _
  | skip hend hending _ => exact hends (.line hend hending _)
  | cons hline _ _ _ => exact hlines hline _

/-- A document within the limits of the reader is read as its lines. -/
theorem exists_statements {cs : List Char} {lines : List Line} (h : IsDocument maxDepth cs lines) :
    ∃ sts, statements cs = some sts ∧ List.Forall₂ Statement.Agrees sts lines := by
  have hmark : dropMark cs = cs := by
    unfold dropMark
    split
    · exact absurd rfl (ne_mark h _)
    · rfl
  unfold statements
  rw [hmark]
  exact statementsFrom_isDocument h (Nat.lt_succ_self _)

end Toml

end KeywordTable
