import KeywordTable.Toml.Text

/-!
# Spelling Strings

How any text can be written as a string of a document. There are four kinds of
string, and each is given by a relation between the characters between its
quotes and the text that they stand for. The relations say what may be written
and what it means without following the reader: a character may stand for
itself if it is neither a control nor a mark of its kind of string, seven
characters have an escape of one letter, and every character can be written by
its number.

The reader agrees. It takes what the spelling of a character has added and
nothing else, so the quote that ends a string is the first that is not part of
a spelling. In a string over several lines that is a run of quotes: one or two
of them belong to the text, unless three more end the string. What follows the
string must not be a quote, or it would be taken for part of that run.

## Main definitions

* `Printable`: The character is no control, or a tab.
* `IsNewline`: A line ending.
* `Escape`: The characters are an escape for one character.
* `Spells`, `LongSpells`: What stands between quotes that know escapes.
* `LongQuotes`: What stands between three quotes that do not.
* `IsString`: The text as a string of any kind.
* `Spelling`: A way to write a text on one line.
* `Spelling.escaped`: The way that escapes only what has to be.

## Theorems

* `hexNumber_digits`: A number is read as it was written.
* `basicRest_spells`, `longBasicRest_spells`, `literalRest_plain`,
  `longLiteralRest_quotes`: What stands between quotes is read up to the closing
  ones.
* `string_isString`: Any string is read as what it stands for.
-/

namespace KeywordTable

namespace Toml

/-! ### Characters and escapes -/

/-- The character is no control, or a tab. -/
def Printable (c : Char) : Prop :=
  c = '\t' ∨ (0x20 ≤ c.toNat ∧ c.toNat ≠ 0x7F)

/-- A line ending. -/
def IsNewline (cs : List Char) : Prop :=
  cs = ['\n'] ∨ cs = ['\r', '\n']

/-- The digits that a number can be written with, in both cases. -/
def hexDigits : List (Char × Nat) :=
  "0123456789abcdef".toList.zipIdx ++ "0123456789ABCDEF".toList.zipIdx

/-- The escapes of one letter, and what they stand for. -/
def letters : List (Char × Char) := [
  ('b', '\x08'), ('t', '\t'), ('n', '\n'), ('f', '\x0c'), ('r', '\r'), ('"', '"'), ('\\', '\\')]

/-- The number that digits write. -/
def numeral (digits : List (Char × Nat)) : Nat :=
  digits.foldl (fun n d => 16 * n + d.2) 0

/-- The characters are an escape for one character. -/
inductive Escape : List Char → Char → Prop
  /-- A letter after a backslash. -/
  | letter (e c : Char) (hletter : (e, c) ∈ letters) : Escape ['\\', e] c
  /-- The number of a character, in four digits or in eight. -/
  | number (mark c : Char) (digits : List (Char × Nat))
    (hmark : (mark = 'u' ∧ digits.length = 4) ∨ (mark = 'U' ∧ digits.length = 8))
    (hdigits : ∀ d ∈ digits, d ∈ hexDigits) (hnumber : numeral digits = c.toNat) :
    Escape ('\\' :: mark :: digits.map (·.1)) c

theorem isPlain_iff (c : Char) : isPlain c = true ↔ Printable c := by
  simp only [isPlain, Printable, Bool.or_eq_true, beq_iff_eq, Bool.and_eq_true, decide_eq_true_eq,
    bne_iff_ne]

theorem newline_append {ending : List Char} (h : IsNewline ending) (rest : List Char) :
    newline (ending ++ rest) = some rest := by
  rcases h with rfl | rfl <;> rfl

theorem hexDigit_of_mem : ∀ d ∈ hexDigits, hexDigit? d.1 = some d.2 := by
  decide +kernel

theorem escaped_of_mem : ∀ l ∈ letters, escaped? l.1 = some l.2 := by
  decide +kernel

/-- A number is read as it was written. -/
theorem hexNumber_digits {digits : List (Char × Nat)} (h : ∀ d ∈ digits, d ∈ hexDigits) :
    hexNumber? (digits.map (·.1)) = some (numeral digits) := by
  unfold hexNumber? numeral
  -- What has been read so far is the number to go on from.
  generalize 0 = n
  induction digits generalizing n with
  | nil => rfl
  | cons d digits ih =>
      rw [List.map_cons, List.foldlM_cons, hexDigit_of_mem d (h d List.mem_cons_self),
        List.foldl_cons]
      exact ih (fun e he => h e (List.mem_cons_of_mem d he)) _

/-- The number of a character is read as that character. -/
theorem charOfHex_digits {digits : List (Char × Nat)} {c : Char}
    (h : ∀ d ∈ digits, d ∈ hexDigits) (hnumber : numeral digits = c.toNat) :
    charOfHex? (digits.map (·.1)) = some c := by
  have hvalid : c.toNat.isValidChar := c.valid
  rw [charOfHex?, hexNumber_digits h, Option.bind_some, hnumber, if_pos hvalid, Char.ofNat_toNat]

/-- No letter of an escape marks a number. -/
theorem letter_ne_mark : ∀ l ∈ letters, l.1 ≠ 'u' ∧ l.1 ≠ 'U' := by
  decide

/-! ### Strings on one line -/

/-- Between quotes on one line the body stands for the text. -/
inductive Spells : List Char → List Char → Prop
  | nil : Spells [] []
  /-- A character stands for itself. -/
  | plain (c : Char) {body text : List Char} (hquote : c ≠ '"') (hslash : c ≠ '\\')
    (hplain : Printable c) (h : Spells body text) : Spells (c :: body) (c :: text)
  | escape {cs : List Char} {c : Char} {body text : List Char} (hescape : Escape cs c)
    (h : Spells body text) : Spells (cs ++ body) (c :: text)

/-- The reader goes on with what an escape stands for. -/
theorem basicRest_escape {cs : List Char} {c : Char} (h : Escape cs c) (done rest : List Char) :
    basicRest done (cs ++ rest) = basicRest (c :: done) rest := by
  cases h with
  | letter e c hletter =>
      have hescaped : escaped? e = some c := escaped_of_mem (e, c) hletter
      rcases letter_ne_mark (e, c) hletter with ⟨hshort, hlong⟩
      have hstep : basicRest done ('\\' :: e :: rest) = basicRest (c :: done) rest := by
        rw [basicRest]
        · rw [hescaped]
        · exact fun _ _ _ _ _ heq => absurd heq hshort
        · exact fun _ _ _ _ _ _ _ _ _ heq => absurd heq hlong
      exact hstep
  | number mark c digits hmark hdigits hnumber =>
      have hchar := charOfHex_digits hdigits hnumber
      rcases hmark with ⟨rfl, hlength⟩ | ⟨rfl, hlength⟩
      · match digits, hlength with
        | [d₀, d₁, d₂, d₃], _ =>
            simp only [List.map_cons, List.map_nil] at hchar
            simp only [List.map_cons, List.map_nil, List.cons_append, List.nil_append, basicRest,
              hchar]
      · match digits, hlength with
        | [d₀, d₁, d₂, d₃, d₄, d₅, d₆, d₇], _ =>
            simp only [List.map_cons, List.map_nil] at hchar
            simp only [List.map_cons, List.map_nil, List.cons_append, List.nil_append, basicRest,
              hchar]

/-- Any other character is taken as it is. -/
theorem basicRest_plain {c : Char} (hquote : c ≠ '"') (hslash : c ≠ '\\') (hplain : Printable c)
    (done rest : List Char) : basicRest done (c :: rest) = basicRest (c :: done) rest := by
  have htaken : (isPlain c && c != '\\') = true := by
    rw [Bool.and_eq_true, isPlain_iff, bne_iff_ne]
    exact ⟨hplain, hslash⟩
  rw [basicRest]
  · rw [if_pos htaken]
  · exact hquote
  · exact fun _ _ _ _ _ heq => absurd heq hslash
  · exact fun _ _ _ _ _ _ _ _ _ heq => absurd heq hslash
  · exact fun _ _ heq => absurd heq hslash

/-- A spelling is read up to the quote after it. -/
theorem basicRest_spells {body text : List Char} (h : Spells body text) (done rest : List Char) :
    basicRest done (body ++ '"' :: rest) = some (done.reverse ++ text, rest) := by
  induction h generalizing done with
  | nil => rw [List.nil_append, basicRest, List.append_nil]
  | plain c hquote hslash hplain _ ih =>
      rw [List.cons_append, basicRest_plain hquote hslash hplain, ih, List.reverse_cons,
        List.append_assoc, List.singleton_append]
  | escape hescape _ ih =>
      rw [List.append_assoc, basicRest_escape hescape, ih, List.reverse_cons, List.append_assoc,
        List.singleton_append]

theorem head_escape {cs : List Char} {c : Char} (h : Escape cs c) : cs.head? = some '\\' := by
  cases h <;> rfl

/-- A spelling never begins with a quote, which would end the string. -/
theorem head_spells {body text : List Char} (h : Spells body text) : body.head? ≠ some '"' := by
  intro hhead
  cases h with
  | nil => cases hhead
  | plain c hquote _ _ _ => exact hquote (Option.some.inj hhead)
  | escape hescape _ =>
      rw [List.head?_append, head_escape hescape] at hhead
      exact absurd (Option.some.inj hhead) (by decide)

/-- Without escapes every character stands for itself. -/
theorem literalRest_plain {text : List Char} (h : ∀ c ∈ text, c ≠ '\'' ∧ Printable c)
    (done rest : List Char) :
    literalRest done (text ++ '\'' :: rest) = some (done.reverse ++ text, rest) := by
  induction text generalizing done with
  | nil => rw [List.nil_append, literalRest, if_pos rfl, List.append_nil]
  | cons c text ih =>
      rcases List.forall_mem_cons.mp h with ⟨⟨hquote, hplain⟩, htext⟩
      rw [List.cons_append, literalRest, if_neg hquote, if_pos ((isPlain_iff c).mpr hplain),
        ih htext, List.reverse_cons, List.append_assoc, List.singleton_append]

/-! ### Strings over several lines -/

/-- What three quotes and what follows them are read as. -/
theorem closing_quotes {q : Char} {rest : List Char} (h : rest.head? ≠ some q) :
    closing? q (q :: q :: q :: rest) = some ([], rest) ∧
      closing? q (q :: q :: q :: q :: rest) = some ([q], rest) ∧
      closing? q (q :: q :: q :: q :: q :: rest) = some ([q, q], rest) := by
  refine ⟨?_, ?_, ?_⟩
  · match rest with
    | [] => simp only [closing?, and_self, if_true]
    | [d] =>
        have hd : d ≠ q := fun heq => h (congrArg some heq)
        simp only [closing?, and_self, if_true, if_neg hd]
    | d :: e :: rest =>
        have hd : d ≠ q := fun heq => h (congrArg some heq)
        simp only [closing?, and_self, if_true, hd, false_and, if_false]
  · cases rest with
    | nil => simp only [closing?, and_self, if_true]
    | cons d rest =>
        have hd : d ≠ q := fun heq => h (congrArg some heq)
        simp only [closing?, and_self, if_true, hd, and_false, if_false]
  · simp only [closing?, and_self, if_true]

/-- One or two quotes do not end a string over several lines. -/
theorem closing_eq_none {q : Char} {cs : List Char} (h : ¬ [q, q] <+: cs) :
    closing? q (q :: cs) = none := by
  match cs with
  | [] => rfl
  | [_] => rfl
  | a :: b :: rest =>
      have hab : ¬ (q = q ∧ a = q ∧ b = q) := by
        rintro ⟨-, rfl, rfl⟩
        exact h (List.prefix_append [_, _] rest)
      unfold closing?
      exact if_neg hab

/-- The character is a blank or belongs to a line ending. -/
def IsSpacing (c : Char) : Prop :=
  c = ' ' ∨ c = '\t' ∨ c = '\n' ∨ c = '\r'

/-- Blanks and line endings. -/
inductive Spacing : List Char → Prop
  | nil : Spacing []
  | blank (c : Char) {cs : List Char} (hc : c = ' ' ∨ c = '\t') (h : Spacing cs) : Spacing (c :: cs)
  | newline {ending cs : List Char} (hending : IsNewline ending) (h : Spacing cs) :
    Spacing (ending ++ cs)

/-- Between three quotes that know escapes the body stands for the text. -/
inductive LongSpells : List Char → List Char → Prop
  | nil : LongSpells [] []
  | plain (c : Char) {body text : List Char} (hquote : c ≠ '"') (hslash : c ≠ '\\')
    (hplain : Printable c) (h : LongSpells body text) : LongSpells (c :: body) (c :: text)
  | escape {cs : List Char} {c : Char} {body text : List Char} (hescape : Escape cs c)
    (h : LongSpells body text) : LongSpells (cs ++ body) (c :: text)
  /-- Every line ending stands for a line feed. -/
  | newline {ending body text : List Char} (hending : IsNewline ending)
    (h : LongSpells body text) : LongSpells (ending ++ body) ('\n' :: text)
  /-- Of quotes there are never three in a row. -/
  | quote {body text : List Char} (hrun : ¬ ['"', '"'] <+: body) (h : LongSpells body text) :
    LongSpells ('"' :: body) ('"' :: text)
  /-- A backslash at the end of a line takes all blanks and line endings that
      follow with it. -/
  | continued {blanks ending spacing body text : List Char}
    (hblanks : ∀ c ∈ blanks, c = ' ' ∨ c = '\t') (hending : IsNewline ending)
    (hspacing : Spacing spacing) (hbody : ∀ c ∈ body.head?, ¬ IsSpacing c)
    (h : LongSpells body text) :
    LongSpells ('\\' :: (blanks ++ ending ++ spacing ++ body)) text

/-- Between three quotes that do not know escapes the body stands for the
    text. -/
inductive LongQuotes : List Char → List Char → Prop
  | nil : LongQuotes [] []
  | plain (c : Char) {body text : List Char} (hquote : c ≠ '\'') (hplain : Printable c)
    (h : LongQuotes body text) : LongQuotes (c :: body) (c :: text)
  | newline {ending body text : List Char} (hending : IsNewline ending)
    (h : LongQuotes body text) : LongQuotes (ending ++ body) ('\n' :: text)
  | quote {body text : List Char} (hrun : ¬ ['\'', '\''] <+: body) (h : LongQuotes body text) :
    LongQuotes ('\'' :: body) ('\'' :: text)

theorem longBasicRest_escape {cs : List Char} {c : Char} (h : Escape cs c) (skipping : Bool)
    (done rest : List Char) :
    longBasicRest skipping done (cs ++ rest) = longBasicRest false (c :: done) rest := by
  cases h with
  | letter e c hletter =>
      -- The letter is neither of the two marks that have digits after them.
      have hescaped : escaped? e = some c := escaped_of_mem (e, c) hletter
      rcases letter_ne_mark (e, c) hletter with ⟨hshort, hlong⟩
      have hstep : longBasicRest skipping done ('\\' :: e :: rest) =
          longBasicRest false (c :: done) rest := by
        rw [longBasicRest]
        · rw [hescaped]
        · exact fun _ _ _ _ _ heq => absurd heq hshort
        · exact fun _ _ _ _ _ _ _ _ _ heq => absurd heq hlong
      exact hstep
  | number mark c digits hmark hdigits hnumber =>
      have hchar := charOfHex_digits hdigits hnumber
      -- The mark fixes how many digits there are, so they can be named.
      rcases hmark with ⟨rfl, hlength⟩ | ⟨rfl, hlength⟩
      · match digits, hlength with
        | [d₀, d₁, d₂, d₃], _ =>
            simp only [List.map_cons, List.map_nil] at hchar
            simp only [List.map_cons, List.map_nil, List.cons_append, List.nil_append,
              longBasicRest, hchar]
      · match digits, hlength with
        | [d₀, d₁, d₂, d₃, d₄, d₅, d₆, d₇], _ =>
            simp only [List.map_cons, List.map_nil] at hchar
            simp only [List.map_cons, List.map_nil, List.cons_append, List.nil_append,
              longBasicRest, hchar]

theorem Printable.not_newline {c : Char} (h : Printable c) : c ≠ '\n' ∧ c ≠ '\r' := by
  constructor
  · rintro rfl
    revert h
    unfold Printable
    decide
  · rintro rfl
    revert h
    unfold Printable
    decide

theorem longBasicRest_plain {c : Char} (hquote : c ≠ '"') (hslash : c ≠ '\\')
    (hplain : Printable c) {skipping : Bool} (hskip : skipping = true → ¬ IsSpacing c)
    (done rest : List Char) :
    longBasicRest skipping done (c :: rest) = longBasicRest false (c :: done) rest := by
  have htaken : (isPlain c && c != '\\') = true := by
    rw [Bool.and_eq_true, isPlain_iff, bne_iff_ne]
    exact ⟨hplain, hslash⟩
  have hkept : ¬ (skipping && isSpace c) = true := by
    rw [Bool.and_eq_true]
    rintro ⟨hskipping, hspace⟩
    refine hskip hskipping ?_
    rw [isSpace, Bool.or_eq_true, beq_iff_eq, beq_iff_eq] at hspace
    rcases hspace with rfl | rfl
    · exact Or.inl rfl
    · exact Or.inr (Or.inl rfl)
  rcases hplain.not_newline with ⟨hfeed, hreturn⟩
  rw [longBasicRest]
  · rw [if_neg hkept, if_pos htaken]
  · exact fun _ heq => absurd heq hreturn
  · exact hfeed
  · exact hquote
  · exact fun _ _ _ _ _ heq => absurd heq hslash
  · exact fun _ _ _ _ _ _ _ _ _ heq => absurd heq hslash
  · exact fun _ _ heq => absurd heq hslash

/-- After a backslash at the end of a line blanks and line endings are passed
    over. -/
theorem longBasicRest_spacing {spacing : List Char} (h : Spacing spacing) (done rest : List Char) :
    longBasicRest true done (spacing ++ rest) = longBasicRest true done rest := by
  induction h with
  | nil => rfl
  | blank c hc _ ih =>
      rcases hc with rfl | rfl <;> simp [longBasicRest, isSpace, ih]
  | newline hending _ ih =>
      rcases hending with rfl | rfl <;> simp [longBasicRest, ih]

theorem spacing_append {blanks ending spacing : List Char}
    (hblanks : ∀ c ∈ blanks, c = ' ' ∨ c = '\t') (hending : IsNewline ending)
    (hspacing : Spacing spacing) : Spacing (blanks ++ ending ++ spacing) := by
  induction blanks with
  | nil => exact .newline hending hspacing
  | cons c blanks ih =>
      rcases List.forall_mem_cons.mp hblanks with ⟨hc, hrest⟩
      exact .blank c hc (ih hrest)

/-- A backslash at the end of a line makes the reader pass over blanks. -/
theorem longBasicRest_continued {blanks ending : List Char}
    (hblanks : ∀ c ∈ blanks, c = ' ' ∨ c = '\t') (hending : IsNewline ending) (skipping : Bool)
    (done rest : List Char) :
    longBasicRest skipping done ('\\' :: (blanks ++ ending ++ rest)) =
      longBasicRest true done (blanks ++ ending ++ rest) := by
  have hends : endsLine (blanks ++ ending ++ rest) = true := by
    unfold endsLine
    rw [List.append_assoc, List.dropWhile_append_of_pos]
    · rcases hending with rfl | rfl <;> rfl
    · intro c hc
      rcases hblanks c hc with rfl | rfl <;> rfl
  -- The first of the characters passed over is the one after the backslash.
  obtain ⟨e, cs, hcs, he⟩ : ∃ e cs, blanks ++ ending ++ rest = e :: cs ∧ IsSpacing e := by
    cases blanks with
    | nil =>
        rcases hending with rfl | rfl
        · exact ⟨'\n', rest, rfl, Or.inr (Or.inr (Or.inl rfl))⟩
        · exact ⟨'\r', '\n' :: rest, rfl, Or.inr (Or.inr (Or.inr rfl))⟩
    | cons c blanks =>
        refine ⟨c, blanks ++ ending ++ rest, rfl, ?_⟩
        rcases hblanks c List.mem_cons_self with rfl | rfl
        · exact Or.inl rfl
        · exact Or.inr (Or.inl rfl)
  rw [hcs] at hends ⊢
  have hescaped : escaped? e = none ∧ e ≠ 'u' ∧ e ≠ 'U' := by
    rcases he with rfl | rfl | rfl | rfl <;> decide
  rw [longBasicRest]
  · simp only [hescaped.1, if_pos hends]
  · exact fun _ _ _ _ _ heq => absurd heq hescaped.2.1
  · exact fun _ _ _ _ _ _ _ _ _ heq => absurd heq hescaped.2.2

/-- If two quotes follow a body that does not begin with them, at most one of
    them is in it. -/
theorem prefix_quotes {q : Char} {body rest : List Char} (hrun : ¬ [q, q] <+: body)
    (h : [q, q] <+: body ++ rest) : body = [] ∨ body = [q] := by
  match body with
  | [] => exact Or.inl rfl
  | [c] =>
      rw [List.singleton_append, List.cons_prefix_cons] at h
      rw [← h.1]
      exact Or.inr rfl
  | c :: d :: body =>
      rw [List.cons_append, List.cons_append, List.cons_prefix_cons, List.cons_prefix_cons] at h
      rcases h with ⟨rfl, rfl, -⟩
      exact absurd (List.prefix_append [_, _] body) hrun

/-- A spelling over several lines is read up to the quotes that end it. While
    blanks are passed over it must not begin with one. -/
theorem longBasicRest_spells {body text : List Char} (h : LongSpells body text) {rest : List Char}
    (hrest : rest.head? ≠ some '"') (skipping : Bool)
    (hskip : skipping = true → ∀ c ∈ body.head?, ¬ IsSpacing c) (done : List Char) :
    longBasicRest skipping done (body ++ '"' :: '"' :: '"' :: rest) =
      some (done.reverse ++ text, rest) := by
  rcases closing_quotes hrest with ⟨hthree, hfour, hfive⟩
  induction h generalizing skipping done with
  | nil =>
      rw [List.nil_append, longBasicRest, hthree]
      simp only [List.nil_append, List.append_nil]
  | plain c hquote hslash hplain _ ih =>
      rw [List.cons_append, longBasicRest_plain hquote hslash hplain fun h => hskip h c rfl,
        ih false fun h => nomatch h]
      simp only [List.reverse_cons, List.append_assoc, List.singleton_append]
  | escape hescape _ ih =>
      rw [List.append_assoc, longBasicRest_escape hescape, ih false fun h => nomatch h]
      simp only [List.reverse_cons, List.append_assoc, List.singleton_append]
  | newline hending _ ih =>
      -- A line ending that is kept cannot come while blanks are passed over.
      have hkept : skipping = false := by
        cases skipping with
        | false => rfl
        | true =>
            rcases hending with rfl | rfl
            · exact absurd (Or.inr (Or.inr (Or.inl rfl))) (hskip rfl '\n' rfl)
            · exact absurd (Or.inr (Or.inr (Or.inr rfl))) (hskip rfl '\r' rfl)
      subst hkept
      have hrec := ih false (fun h => nomatch h) ('\n' :: done)
      rw [List.reverse_cons, List.append_assoc, List.singleton_append] at hrec
      rcases hending with rfl | rfl
      · exact hrec
      · exact hrec
  | @quote body text hrun _ ih =>
      have hstep : longBasicRest skipping done ('"' :: (body ++ '"' :: '"' :: '"' :: rest)) =
          longBasicRest false ('"' :: done) (body ++ '"' :: '"' :: '"' :: rest) := by
        by_cases hquotes : ['"', '"'] <+: body ++ '"' :: '"' :: '"' :: rest
        · -- The run of quotes goes on to the end of the string.
          rcases prefix_quotes hrun hquotes with rfl | rfl
          · simp only [List.nil_append, longBasicRest, hthree, hfour, List.singleton_append]
          · simp only [longBasicRest, hfour, hfive, List.cons_append, List.nil_append]
        · rw [longBasicRest, closing_eq_none hquotes]
      rw [List.cons_append, hstep, ih false (fun h => nomatch h) ('"' :: done)]
      simp only [List.reverse_cons, List.append_assoc, List.singleton_append]
  | @continued blanks ending spacing body text hblanks hending hspacing hbody _ ih =>
      -- All blanks after the backslash are passed over, to where text begins.
      have hspace := spacing_append hblanks hending hspacing
      rw [List.cons_append, List.append_assoc (blanks ++ ending ++ spacing),
        List.append_assoc (blanks ++ ending), longBasicRest_continued hblanks hending,
        ← List.append_assoc, longBasicRest_spacing hspace]
      exact ih true (fun _ => hbody) done

theorem longLiteralRest_closing {cs quotes rest : List Char}
    (h : closing? '\'' ('\'' :: cs) = some (quotes, rest)) (done : List Char) :
    longLiteralRest done ('\'' :: cs) = some ((quotes ++ done).reverse, rest) := by
  rw [longLiteralRest]
  · simp only [if_true, h]
  · exact fun _ heq => nomatch heq
  · exact fun heq => nomatch heq

theorem longLiteralRest_quote {cs : List Char} (h : closing? '\'' ('\'' :: cs) = none)
    (done : List Char) : longLiteralRest done ('\'' :: cs) = longLiteralRest ('\'' :: done) cs := by
  rw [longLiteralRest]
  · simp only [if_true, h]
  · exact fun _ heq => nomatch heq
  · exact fun heq => nomatch heq

/-- Without escapes only quotes and line endings are looked at. -/
theorem longLiteralRest_quotes {body text : List Char} (h : LongQuotes body text) {rest : List Char}
    (hrest : rest.head? ≠ some '\'') (done : List Char) :
    longLiteralRest done (body ++ '\'' :: '\'' :: '\'' :: rest) =
      some (done.reverse ++ text, rest) := by
  rcases closing_quotes hrest with ⟨hthree, hfour, hfive⟩
  induction h generalizing done with
  | nil =>
      rw [List.nil_append, longLiteralRest_closing hthree, List.nil_append, List.append_nil]
  | plain c hquote hplain _ ih =>
      rcases hplain.not_newline with ⟨hfeed, hreturn⟩
      rw [List.cons_append, longLiteralRest, if_neg hquote, if_pos ((isPlain_iff c).mpr hplain), ih]
      · simp only [List.reverse_cons, List.append_assoc, List.singleton_append]
      · exact fun _ heq => absurd heq hreturn
      · exact hfeed
  | newline hending _ ih =>
      have hrec := ih ('\n' :: done)
      rw [List.reverse_cons, List.append_assoc, List.singleton_append] at hrec
      rcases hending with rfl | rfl
      · exact hrec
      · exact hrec
  | @quote body text hrun _ ih =>
      have hstep : longLiteralRest done ('\'' :: (body ++ '\'' :: '\'' :: '\'' :: rest)) =
          longLiteralRest ('\'' :: done) (body ++ '\'' :: '\'' :: '\'' :: rest) := by
        by_cases hquotes : ['\'', '\''] <+: body ++ '\'' :: '\'' :: '\'' :: rest
        · -- The run of quotes goes on to the end of the string.
          rcases prefix_quotes hrun hquotes with rfl | rfl
          · rw [List.nil_append, longLiteralRest_closing hfour, longLiteralRest_closing hthree]
            rfl
          · rw [List.singleton_append, longLiteralRest_closing hfive,
              longLiteralRest_closing hfour]
            rfl
        · exact longLiteralRest_quote (closing_eq_none hquotes) done
      rw [List.cons_append, hstep, ih ('\'' :: done)]
      simp only [List.reverse_cons, List.append_assoc, List.singleton_append]

/-! ### Strings of any kind -/

/-- What directly follows the opening quotes of a string over several lines: a
    line ending, which does not count, or no line ending. -/
def Opening (first body : List Char) : Prop :=
  IsNewline first ∨ (first = [] ∧ ∀ c ∈ body.head?, c ≠ '\n' ∧ c ≠ '\r')

/-- The characters are a string that stands for the text. -/
inductive IsString : List Char → List Char → Prop
  | basic {body text : List Char} (h : Spells body text) : IsString ('"' :: (body ++ ['"'])) text
  | literal {text : List Char} (h : ∀ c ∈ text, c ≠ '\'' ∧ Printable c) :
    IsString ('\'' :: (text ++ ['\''])) text
  | longBasic {first body text : List Char} (hfirst : Opening first body)
    (h : LongSpells body text) :
    IsString ('"' :: '"' :: '"' :: (first ++ (body ++ ['"', '"', '"']))) text
  | longLiteral {first body text : List Char} (hfirst : Opening first body)
    (h : LongQuotes body text) :
    IsString ('\'' :: '\'' :: '\'' :: (first ++ (body ++ ['\'', '\'', '\'']))) text

theorem dropNewline_opening {first body : List Char} (h : Opening first body) {q : Char}
    (hq : q ≠ '\n' ∧ q ≠ '\r') (rest : List Char) :
    dropNewline (first ++ (body ++ q :: rest)) = body ++ q :: rest := by
  unfold dropNewline
  rcases h with h | ⟨rfl, hbody⟩
  · rw [newline_append h, Option.getD_some]
  · have hhead : ∀ c ∈ (body ++ q :: rest).head?, c ≠ '\n' ∧ c ≠ '\r' := by
      cases body with
      | nil => exact fun c hc => Option.some.inj hc ▸ hq
      | cons c body => exact hbody
    rw [List.nil_append]
    cases hcs : body ++ q :: rest with
    | nil => rfl
    | cons c cs =>
        rcases hhead c (by rw [hcs]; rfl) with ⟨hfeed, hreturn⟩
        rw [newline]
        · rfl
        · exact fun _ heq => hfeed (List.head_eq_of_cons_eq heq)
        · exact fun _ heq => hreturn (List.head_eq_of_cons_eq heq)

/-- Any string is read as what it stands for, if no quote follows. -/
theorem string_isString {cs text rest : List Char} (h : IsString cs text)
    (hdouble : rest.head? ≠ some '"') (hsingle : rest.head? ≠ some '\'') :
    string (cs ++ rest) = some (text, rest) := by
  cases h with
  | @basic body _ h =>
      -- With nothing inside, a third quote would make it a long string.
      rw [List.cons_append, List.append_assoc, List.singleton_append, string]
      · exact basicRest_spells h [] rest
      · intro cs heq
        cases body with
        | nil => exact hdouble (congrArg List.head? (List.tail_eq_of_cons_eq heq))
        | cons c body => exact head_spells h (congrArg List.head? heq)
  | literal h =>
      rw [List.cons_append, List.append_assoc, List.singleton_append, string]
      · exact literalRest_plain h [] rest
      · intro cs heq
        cases text with
        | nil => exact hsingle (congrArg List.head? (List.tail_eq_of_cons_eq heq))
        | cons c text => exact (h c List.mem_cons_self).1 (List.head_eq_of_cons_eq heq)
  | longBasic hfirst h =>
      -- A line ending right after the opening is not part of the text.
      have hopen := dropNewline_opening hfirst (q := '"') (by decide) ('"' :: '"' :: rest)
      simp only [List.cons_append, List.append_assoc, List.nil_append, string, hopen]
      exact longBasicRest_spells h hdouble false (fun h => nomatch h) []
  | longLiteral hfirst h =>
      have hopen := dropNewline_opening hfirst (q := '\'') (by decide) ('\'' :: '\'' :: rest)
      simp only [List.cons_append, List.append_assoc, List.nil_append, string, hopen]
      exact longLiteralRest_quotes h hsingle []

/-! ### Ways to write a text -/

/-- A way to write a text between quotes on one line. -/
structure Spelling (text : String) where
  body : List Char
  spells : Spells body text.toList

/-- The four digits of a number below 256. -/
def shortDigits (n : Nat) : List (Char × Nat) :=
  [0, 0, n / 16, n % 16].map fun d => (Nat.digitChar d, d)

/-- A character with an escape if it needs one. -/
def escape (c : Char) : List Char :=
  if c = '"' ∨ c = '\\' then ['\\', c]
  else if c.toNat < 0x20 ∨ c.toNat = 0x7F then '\\' :: 'u' :: (shortDigits c.toNat).map (·.1)
  else [c]

theorem shortDigits_spec :
    ∀ n < 0x80, (∀ d ∈ shortDigits n, d ∈ hexDigits) ∧ numeral (shortDigits n) = n := by
  decide +kernel

/-- Any character can be put before a spelling. -/
theorem spells_escape (c : Char) {body text : List Char} (h : Spells body text) :
    Spells (escape c ++ body) (c :: text) := by
  unfold escape
  by_cases hmark : c = '"' ∨ c = '\\'
  · rw [if_pos hmark]
    have hletter : (c, c) ∈ letters := by
      rcases hmark with rfl | rfl <;> decide
    exact .escape (.letter c c hletter) h
  rw [if_neg hmark]
  rw [not_or] at hmark
  by_cases hcontrol : c.toNat < 0x20 ∨ c.toNat = 0x7F
  · rw [if_pos hcontrol]
    rcases shortDigits_spec c.toNat (by omega) with ⟨hdigits, hnumber⟩
    exact .escape (.number 'u' c (shortDigits c.toNat) (Or.inl ⟨rfl, rfl⟩) hdigits hnumber) h
  · rw [if_neg hcontrol]
    exact .plain c hmark.1 hmark.2 (Or.inr (by omega)) h

/-- The way to write a text that escapes only what has to be. -/
def Spelling.escaped (text : String) : Spelling text where
  body := text.toList.flatMap escape
  spells := by
    induction text.toList with
    | nil => exact .nil
    | cons c cs ih =>
        rw [List.flatMap_cons]
        exact spells_escape c ih

/-- A letter is spelled as itself. -/
def Spelling.letter (c : Char) (text : String) (htext : text.toList = [c])
    (hplain : c ≠ '"' ∧ c ≠ '\\' ∧ 0x20 ≤ c.toNat ∧ c.toNat ≠ 0x7F) : Spelling text where
  body := [c]
  spells := by
    rw [htext]
    exact .plain c hplain.1 hplain.2.1 (Or.inr hplain.2.2) .nil

instance (text : String) : Inhabited (Spelling text) := ⟨Spelling.escaped text⟩

end Toml

end KeywordTable
