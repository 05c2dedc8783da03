import KeywordTable.Proofs.Format
import Mathlib.Data.List.TakeDrop
import Mathlib.Data.List.TakeWhile

/-!
# Reading Keys

Blanks, comments and keys are read as the format has them. A reader never looks
back, so each statement has two parts: what the text is, and what may come after
it so that the reader stops there and not later. Blanks must not be followed by
another blank, a key must not be followed by a character that could belong to
it, and after a path there is an equals sign or a closing bracket.

A text that begins with a key may have blanks before it, which the readers of
lines and tables pass over before they look at what they have. `Indented` takes
such a text apart, and what is left is a text of the same kind.

## Main definitions

* `Unblank`: The text does not begin with a blank.
* `PathEnds`: What stands after a path.
* `StartsKey`: The characters that a key can begin with.
* `Indented`: A text that begins with a key, with blanks before it.

## Theorems

* `lineEnd_append`: The rest of a line is passed over.
* `skipLines_gap`: A gap in an array is passed over.
* `key_isKey`: A key is read as its name.
* `keyPath_isPath`: A path is read as its names.
-/

namespace KeywordTable

namespace Toml

/-! ### Blanks and comments -/

theorem isSpace_iff (c : Char) : isSpace c = true ↔ c = ' ' ∨ c = '\t' := by
  rw [isSpace, Bool.or_eq_true, beq_iff_eq, beq_iff_eq]

/-- The text does not begin with a blank. -/
def Unblank (cs : List Char) : Prop :=
  ∀ c ∈ cs.head?, c ≠ ' ' ∧ c ≠ '\t'

/-- Blanks are passed over. -/
theorem skipSpace_append {blanks rest : List Char} (h : Blank blanks) (hrest : Unblank rest) :
    skipSpace (blanks ++ rest) = rest := by
  refine (span_append (fun c hc => (isSpace_iff c).mpr (h c hc)) fun c hc => ?_).2
  rw [Bool.eq_false_iff, ne_eq, isSpace_iff, not_or]
  exact hrest c hc

theorem skipSpace_of_unblank {rest : List Char} (h : Unblank rest) : skipSpace rest = rest :=
  skipSpace_append (fun _ hc => absurd hc List.not_mem_nil) h

theorem unblank_cons {c : Char} (hc : c ≠ ' ' ∧ c ≠ '\t') (rest : List Char) :
    Unblank (c :: rest) := by
  intro d hd
  rw [← Option.some.inj hd]
  exact hc

theorem newline_unblank {ending : List Char} (h : IsNewline ending) (rest : List Char) :
    Unblank (ending ++ rest) := by
  rcases h with rfl | rfl
  · exact unblank_cons (by decide) rest
  · exact unblank_cons (by decide) _

theorem not_plain_newline {ending : List Char} (h : IsNewline ending) (rest : List Char) :
    ∀ c ∈ (ending ++ rest).head?, isPlain c = false := by
  intro c hc
  rcases h with rfl | rfl <;> (rw [← Option.some.inj hc]; decide)

/-- The rest of a line is passed over up to the next line. -/
theorem lineEnd_append {tail ending : List Char} (h : IsEnd tail) (hending : IsNewline ending)
    (rest : List Char) : lineEnd (tail ++ (ending ++ rest)) = some rest := by
  have hnewline := newline_append hending rest
  have hskip : skipComment (skipSpace (tail ++ (ending ++ rest))) = ending ++ rest := by
    cases h with
    | blank h =>
        rw [skipSpace_append h (newline_unblank hending rest)]
        rcases hending with rfl | rfl <;> rfl
    | comment hblanks hbody =>
        rw [List.append_assoc, List.cons_append,
          skipSpace_append hblanks (unblank_cons (by decide) _), skipComment]
        exact (span_append (fun c hc => (isPlain_iff c).mpr (hbody c hc))
          (not_plain_newline hending rest)).2
  unfold lineEnd
  rw [hskip]
  rcases hending with rfl | rfl <;> exact hnewline

/-- The end of the last line is passed over. -/
theorem lineEnd_end {tail : List Char} (h : IsEnd tail) : lineEnd tail = some [] := by
  have hskip : skipComment (skipSpace tail) = [] := by
    cases h with
    | blank h =>
        have hall : skipSpace tail = [] :=
          List.dropWhile_eq_nil_iff.mpr fun c hc => (isSpace_iff c).mpr (h c hc)
        rw [hall]
        rfl
    | @comment blanks body hblanks hbody =>
        have hall : body.dropWhile isPlain = [] :=
          List.dropWhile_eq_nil_iff.mpr fun c hc => (isPlain_iff c).mpr (hbody c hc)
        rw [skipSpace_append hblanks (unblank_cons (by decide) _), skipComment, hall]
  unfold lineEnd
  rw [hskip]

/-- In a comment characters are passed over up to the line ending. -/
theorem skipLines_comment {body ending : List Char} (hbody : ∀ c ∈ body, Printable c)
    (hending : IsNewline ending) (rest : List Char) :
    skipLines true (body ++ (ending ++ rest)) = skipLines false rest := by
  induction body with
  | nil => rcases hending with rfl | rfl <;> rfl
  | cons c body ih =>
      rcases List.forall_mem_cons.mp hbody with ⟨hc, hrest⟩
      rcases hc.not_newline with ⟨hfeed, hreturn⟩
      rw [List.cons_append, skipLines]
      · rw [if_pos rfl, if_pos ((isPlain_iff c).mpr hc), ih hrest]
      · exact fun _ heq => absurd heq hreturn
      · exact hfeed

/-- A gap is passed over up to what is neither a blank nor a line ending nor a
    comment. -/
theorem skipLines_gap {gap : List Char} (h : Gap gap) {c : Char}
    (hc : c ∉ [' ', '\t', '\n', '\r', '#']) (rest : List Char) :
    skipLines false (gap ++ c :: rest) = some (c :: rest) := by
  have hne : c ≠ ' ' ∧ c ≠ '\t' ∧ c ≠ '\n' ∧ c ≠ '\r' ∧ c ≠ '#' := by
    simpa only [List.mem_cons, List.not_mem_nil, or_false, not_or] using hc
  rcases hne with ⟨hspace, htab, hfeed, hreturn, hmark⟩
  induction h with
  | nil =>
      rw [List.nil_append, skipLines]
      · rw [if_neg Bool.false_ne_true, if_neg, if_neg hmark]
        rw [isSpace_iff]
        exact not_or.mpr ⟨hspace, htab⟩
      · exact fun _ heq => absurd heq hreturn
      · exact hfeed
  | @blank d cs hd _ ih =>
      have hskip :
          skipLines false (d :: (cs ++ c :: rest)) = skipLines false (cs ++ c :: rest) := by
        rcases hd with rfl | rfl <;> rfl
      exact hskip.trans ih
  | newline hending _ ih =>
      rw [List.append_assoc]
      rcases hending with rfl | rfl <;> exact ih
  | @comment body ending cs hbody hending _ ih =>
      -- Inside a comment all is passed over up to the end of the line.
      have hskip : skipLines false ('#' :: (body ++ (ending ++ (cs ++ c :: rest)))) =
          skipLines true (body ++ (ending ++ (cs ++ c :: rest))) := rfl
      rw [List.cons_append, List.append_assoc, List.append_assoc, hskip,
        skipLines_comment hbody hending, ih]

/-! ### Keys -/

theorem isBare_iff (c : Char) : isBare c = true ↔ c.isAlphanum = true ∨ c = '_' ∨ c = '-' := by
  rw [isBare, Bool.or_eq_true, Bool.or_eq_true, beq_iff_eq, beq_iff_eq, or_assoc]

/-- A key can begin with the character. -/
def StartsKey (c : Char) : Prop :=
  isBare c = true ∨ c = '"' ∨ c = '\''

/-- Where a key begins there is neither a blank nor the end of a line or of a
    table, nor a header or a byte order mark. -/
theorem not_startsKey :
    ∀ c ∈ [' ', '\t', '#', '\r', '\n', '[', '\x7d', '\ufeff'], ¬ StartsKey c := by
  unfold StartsKey
  exact forall_of_all (by decide)

/-- A key begins with a quote or with a character that needs none. -/
theorem head_isKey {cs : List Char} {name : String} (h : IsKey cs name) :
    ∃ c rest, cs = c :: rest ∧ StartsKey c := by
  cases h with
  | bare hne h =>
      cases cs with
      | nil => exact absurd rfl hne
      | cons c cs => exact ⟨c, cs, rfl, Or.inl ((isBare_iff c).mpr (h c List.mem_cons_self))⟩
  | basic h => exact ⟨'"', _, rfl, Or.inr (Or.inl rfl)⟩
  | literal h => exact ⟨'\'', _, rfl, Or.inr (Or.inr rfl)⟩

/-- A key is read as its name, if it cannot go on with what follows. -/
theorem key_isKey {cs : List Char} {name : String} (h : IsKey cs name) {rest : List Char}
    (hrest : ∀ c ∈ rest.head?, isBare c = false) :
    ∃ span, key (cs ++ rest) = some ({ name, span }, rest) := by
  have htext : ∃ text, keyText (cs ++ rest) = some (text, rest) ∧ name = .ofList text := by
    cases h with
    | bare hne h =>
        have hbare : ∀ c ∈ cs, isBare c = true := fun c hc => (isBare_iff c).mpr (h c hc)
        rcases span_append hbare hrest with ⟨htake, hdrop⟩
        refine ⟨cs, ?_, rfl⟩
        -- A bare key does not begin with a quote, so the last case applies.
        have hquote : ∀ q t, q = '"' ∨ q = '\'' → cs ++ rest ≠ q :: t := by
          rintro q t hq heq
          cases cs with
          | nil => exact hne rfl
          | cons c cs =>
              have hc := hbare c List.mem_cons_self
              rw [List.head_eq_of_cons_eq heq] at hc
              rcases hq with rfl | rfl <;> cases hc
        rw [keyText]
        · rw [htake, if_neg (by rwa [List.isEmpty_iff]), List.span_eq_takeWhile_dropWhile, htake,
            hdrop]
        · exact fun t => hquote '"' t (Or.inl rfl)
        · exact fun t => hquote '\'' t (Or.inr rfl)
    | @basic body text h =>
        refine ⟨text, ?_, rfl⟩
        rw [List.cons_append, List.append_assoc, List.singleton_append, keyText]
        exact basicRest_spells h [] rest
    | @literal text h =>
        refine ⟨text, ?_, rfl⟩
        rw [List.cons_append, List.append_assoc, List.singleton_append, keyText]
        exact literalRest_plain h [] rest
  rcases htext with ⟨text, htext, rfl⟩
  unfold key
  rw [htext]
  exact ⟨_, rfl⟩

/-- After a path comes an equals sign or a closing bracket. -/
def PathEnds (rest : List Char) : Prop :=
  ∃ c t, rest = c :: t ∧ (c = '=' ∨ c = ']')

theorem PathEnds.spec {rest : List Char} (h : PathEnds rest) :
    Unblank rest ∧ (∀ t, rest ≠ '.' :: t) ∧ ∀ c ∈ rest.head?, isBare c = false := by
  rcases h with ⟨c, t, rfl, hc⟩
  have hspec : (c ≠ ' ' ∧ c ≠ '\t') ∧ c ≠ '.' ∧ isBare c = false := by
    rcases hc with rfl | rfl <;> decide
  refine ⟨unblank_cons hspec.1 t, fun _ heq => hspec.2.1 (List.head_eq_of_cons_eq heq), ?_⟩
  intro d hd
  rw [← Option.some.inj hd]
  exact hspec.2.2

theorem unblank_startsKey {c : Char} (hc : StartsKey c) (t : List Char) : Unblank (c :: t) := by
  refine unblank_cons ⟨?_, ?_⟩ t
  · rintro rfl; exact not_startsKey ' ' (by decide) hc
  · rintro rfl; exact not_startsKey '\t' (by decide) hc

theorem unblank_isKey {cs : List Char} {name : String} (h : IsKey cs name) (rest : List Char) :
    Unblank (cs ++ rest) := by
  rcases head_isKey h with ⟨c, t, rfl, hc⟩
  exact unblank_startsKey hc _

theorem not_bare_blanks {after rest : List Char} (h : Blank after)
    (hrest : ∀ c ∈ rest.head?, isBare c = false) :
    ∀ c ∈ (after ++ rest).head?, isBare c = false := by
  cases after with
  | nil => exact hrest
  | cons d after =>
      intro c hc
      rw [← Option.some.inj hc]
      rcases h d List.mem_cons_self with rfl | rfl <;> decide

/-- Keys with dots between them are read as their names. -/
theorem keys_isPath {cs : List Char} {names : List String} (h : IsPath cs names)
    {rest : List Char} (hrest : PathEnds rest) {fuel : Nat} (hfuel : names.length ≤ fuel) :
    ∃ ks, keys fuel (cs ++ rest) = some (ks, rest) ∧ ks.map (·.name) = names := by
  rcases hrest.spec with ⟨hunblank, hdot, hbare⟩
  induction h generalizing fuel with
  | @last before cs after name hbefore hkey hafter =>
      cases fuel with
      | zero => cases hfuel
      | succ fuel =>
          -- What follows the path ends its last key, and is not a dot.
          rcases key_isKey hkey (not_bare_blanks hafter hbare) with ⟨span, hread⟩
          refine ⟨[{ name, span }], ?_, rfl⟩
          rw [keys, List.append_assoc, List.append_assoc,
            skipSpace_append hbefore (unblank_isKey hkey _), hread]
          simp only [Option.bind_eq_bind, Option.bind_some, skipSpace_append hafter hunblank]
          rfl
  | @dot before cs after tail name names hbefore hkey hafter _ ih =>
      cases fuel with
      | zero => cases hfuel
      | succ fuel =>
          -- The dot ends the key, and the keys after it are read with less fuel.
          have hdotted : ∀ c ∈ ('.' :: (tail ++ rest)).head?, isBare c = false := by
            intro c hc
            rw [← Option.some.inj hc]
            decide
          have hskip : skipSpace (after ++ '.' :: (tail ++ rest)) = '.' :: (tail ++ rest) :=
            skipSpace_append hafter (unblank_cons (by decide) _)
          rcases key_isKey hkey (not_bare_blanks hafter hdotted) with ⟨span, hread⟩
          rcases ih (Nat.le_of_succ_le_succ hfuel) with ⟨ks, hks, rfl⟩
          refine ⟨{ name, span } :: ks, ?_, rfl⟩
          rw [keys, List.append_assoc, List.append_assoc, List.append_assoc, List.cons_append,
            skipSpace_append hbefore (unblank_isKey hkey _), hread]
          simp only [Option.bind_eq_bind, Option.bind_some, hskip, hks]
          rfl

/-- There are no more keys than characters. -/
theorem length_isPath {cs : List Char} {names : List String} (h : IsPath cs names) :
    names ≠ [] ∧ names.length ≤ cs.length := by
  induction h with
  | last _ hkey _ =>
      rcases head_isKey hkey with ⟨c, t, rfl, -⟩
      refine ⟨List.cons_ne_nil _ _, ?_⟩
      simp only [List.length_append, List.length_cons, List.length_nil]
      omega
  | dot _ hkey _ _ ih =>
      rcases head_isKey hkey with ⟨c, t, rfl, -⟩
      refine ⟨List.cons_ne_nil _ _, ?_⟩
      simp only [List.length_append, List.length_cons]
      omega

/-- A path is read as its names, if it is not too long. -/
theorem keyPath_isPath {cs : List Char} {names : List String} (h : IsPath cs names)
    (hlimit : names.length ≤ maxDepth) {rest : List Char} (hrest : PathEnds rest) :
    ∃ path, keyPath (cs ++ rest) = some (path, rest) ∧ path.names = names := by
  rcases length_isPath h with ⟨hne, hlength⟩
  -- The count is the length of the text, and a key has a character at least.
  have hfuel : names.length ≤ (cs ++ rest).length + 1 := by
    rw [List.length_append]
    omega
  rcases keys_isPath h hrest hfuel with ⟨ks, hks, rfl⟩
  rw [List.length_map] at hlimit
  cases hlast : ks.getLast? with
  | none =>
      rw [List.getLast?_eq_none_iff] at hlast
      rw [hlast] at hne
      exact absurd rfl hne
  | some last =>
      refine ⟨{ parents := ks.dropLast, last }, ?_, ?_⟩
      · unfold keyPath
        simp only [hks, Option.bind_eq_bind, Option.bind_some, if_pos hlimit, hlast]
        rfl
      · have hsplit : ks.dropLast ++ [last] = ks := List.dropLast_append_getLast? last hlast
        have hnames : (ks.dropLast ++ [last]).map (·.name) = ks.map (·.name) := by rw [hsplit]
        rw [List.map_append] at hnames
        exact hnames

/-! ### Texts that begin with a key -/

/-- Blanks, and then a text that begins with a key and is as given. -/
def Indented (p : List Char → Prop) (cs : List Char) : Prop :=
  ∃ blanks c t, cs = blanks ++ c :: t ∧ Blank blanks ∧ StartsKey c ∧ p (c :: t)

theorem Indented.append {p q : List Char → Prop} {cs tail : List Char} (h : Indented p cs)
    (hq : ∀ cs, p cs → q (cs ++ tail)) : Indented q (cs ++ tail) := by
  rcases h with ⟨blanks, c, t, rfl, hblanks, hc, hp⟩
  refine ⟨blanks, c, t ++ tail, ?_, hblanks, hc, hq _ hp⟩
  rw [List.append_assoc, List.cons_append]

theorem indented_isPath {cs : List Char} {names : List String} (h : IsPath cs names) :
    Indented (IsPath · names) cs := by
  cases h with
  | last hbefore hkey hafter =>
      rcases head_isKey hkey with ⟨c, t, rfl, hc⟩
      exact ⟨_, c, _, rfl, hbefore, hc, .last blank_nil hkey hafter⟩
  | dot hbefore hkey hafter h =>
      rcases head_isKey hkey with ⟨c, t, rfl, hc⟩
      exact ⟨_, c, _, rfl, hbefore, hc, .dot blank_nil hkey hafter h⟩

/-- Blanks before a key are passed over. -/
theorem skipSpace_startsKey {blanks : List Char} (h : Blank blanks) {c : Char} (hc : StartsKey c)
    (t : List Char) : skipSpace (blanks ++ c :: t) = c :: t :=
  skipSpace_append h (unblank_startsKey hc t)

end Toml

end KeywordTable
