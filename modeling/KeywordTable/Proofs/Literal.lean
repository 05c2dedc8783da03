import KeywordTable.Proofs.Entries
import KeywordTable.Toml.Text

/-!
# Keys as String Literals

In the table that is written each key stands between quotes, and whoever
compiles the table reads a string literal there. The literal ends at the first
quote that no backslash takes away, and in it a backslash and what follows stand
for something else. Nothing is escaped when the table is written, so a key that
has a quote or a backslash in it is not read back.

It is read back if it has neither. That these are the only keys which are lies in
what an escape can be: it always takes more bytes than it stands for. So a
literal with an escape in it stands for something shorter than what it is written
with, and never for the key itself.

## Main definitions

* `Literal.read`: Where a literal ends.
* `Literal.escape?`: What an escape stands for.
* `Literal.value`: What a literal stands for.
* `Literal.parse`: Reads a literal.
* `Word.afterQuote`, `Word.afterKey`: The entry after the first quote and after the key.

## Theorems

* `Literal.readFrom_plain`: A text without quotes and backslashes ends at the next quote.
* `Literal.append_of_readFrom`: Reading divides the text.
* `Literal.escape_bounds`: An escape is longer than what it stands for.
* `Literal.value_eq_bytes_iff`: Only a text without escapes stands for itself.
* `Literal.parse_append_iff`: Which texts are read back from between quotes.
* `Word.literal_reads_key_iff`: Which keys are read back from the table.
-/

namespace KeywordTable

namespace Literal

/-- A quote closes the literal if the run of backslashes before it is even. What
    comes before is held in reverse. -/
def closes (before : List Char) : Bool :=
  (before.takeWhile (· == '\\')).length % 2 == 0

/-- The body of a literal and what follows it, after `before` was read. -/
def readFrom (before : List Char) : List Char → Option (List Char × List Char)
  | [] => none
  | c :: cs =>
    if c = '"' ∧ closes before = true then some (before.reverse, cs) else readFrom (c :: before) cs

/-- The body of a literal and what follows it, where the text starts after the
    opening quote. -/
def read (cs : List Char) : Option (List Char × List Char) :=
  readFrom [] cs

/-- The bytes of a text in UTF-8. -/
def bytes (cs : List Char) : List UInt8 :=
  cs.flatMap String.utf8EncodeChar

/-- The character that an escape of one letter stands for. -/
def escaped? : Char → Option Char
  | '\'' => some '\''
  | '"' => some '"'
  | '?' => some '?'
  | '\\' => some '\\'
  | 'a' => some '\x07'
  | 'b' => some '\x08'
  | 'f' => some '\x0c'
  | 'n' => some '\n'
  | 'r' => some '\r'
  | 't' => some '\t'
  | 'v' => some '\x0b'
  | _ => none

/-- A number that fits into a byte. -/
def byte? (n : Nat) : Option (List UInt8) :=
  if n < 256 then some [UInt8.ofNat n] else none

/-- The character is a hexadecimal digit, in either case. -/
def isHexDigit (c : Char) : Bool :=
  (Toml.hexDigit? c).isSome

/-- The character is an octal digit. -/
def isOctalDigit (c : Char) : Bool :=
  '0' ≤ c && c ≤ '7'

/-- The number that the octal digits write. -/
def octalNumber (cs : List Char) : Nat :=
  cs.foldl (fun n c => 8 * n + (c.toNat - '0'.toNat)) 0

/-- The character whose number is written with so many hexadecimal digits, and
    how many characters that takes with the letter before them. -/
def universal? (count : Nat) (cs : List Char) : Option (List UInt8 × Nat) :=
  if count ≤ cs.length then
    (Toml.charOfHex? (cs.take count)).map fun c => (String.utf8EncodeChar c, count + 1)
  else none

/-- The byte whose number the digits write, if there are any, and how many
    characters that takes with `before` others before them. -/
def numbered? (before : Nat) (digits : List Char) (n : Option Nat) : Option (List UInt8 × Nat) :=
  if digits = [] then none else (n.bind byte?).map (·, before + digits.length)

/-- The bytes that an escape stands for, and how many characters it takes after
    the backslash. -/
def escape? : List Char → Option (List UInt8 × Nat)
  | [] => none
  | c :: cs =>
    match escaped? c with
    | some d => some ([UInt8.ofNat d.toNat], 1)
    | none =>
      let hexDigits := cs.takeWhile isHexDigit
      let octalDigits := ((c :: cs).take 3).takeWhile isOctalDigit
      if c = 'u' then universal? 4 cs
      else if c = 'U' then universal? 8 cs
      else if c = 'x' then numbered? 1 hexDigits (Toml.hexNumber? hexDigits)
      else numbered? 0 octalDigits (octalNumber octalDigits)

/-- The bytes that the rest of a body stands for, of which the first `skip`
    characters belong to an escape before. -/
def valueFrom : Nat → List Char → Option (List UInt8)
  | _, [] => some []
  | skip + 1, _ :: cs => valueFrom skip cs
  | 0, c :: cs =>
    if c = '\\' then
      (escape? cs).bind fun (escaped, used) => (valueFrom used cs).map (escaped ++ ·)
    else (valueFrom 0 cs).map (String.utf8EncodeChar c ++ ·)

/-- The bytes that the body of a literal stands for. -/
def value (body : List Char) : Option (List UInt8) :=
  valueFrom 0 body

/-- Reads a literal after its opening quote: what it stands for, and what follows
    it. -/
def parse (cs : List Char) : Option (List UInt8 × List Char) :=
  (read cs).bind fun (body, rest) => (value body).map (·, rest)

/-- Every character takes a byte or more. -/
theorem length_le_bytes (cs : List Char) : cs.length ≤ (bytes cs).length := by
  induction cs with
  | nil => exact Nat.le_refl 0
  | cons c cs ih =>
      have hpos := c.utf8Size_pos
      rw [bytes, List.flatMap_cons, List.length_append, String.length_utf8EncodeChar,
        List.length_cons]
      unfold bytes at ih
      omega

theorem bytes_append (as bs : List Char) : bytes (as ++ bs) = bytes as ++ bytes bs :=
  List.flatMap_append

/-- A text without quotes and backslashes ends at the next quote. -/
theorem readFrom_plain {before cs : List Char} (hbefore : closes before = true)
    (hquote : '"' ∉ cs) (hslash : '\\' ∉ cs) (rest : List Char) :
    readFrom before (cs ++ '"' :: rest) = some (before.reverse ++ cs, rest) := by
  induction cs generalizing before with
  | nil => rw [List.nil_append, readFrom, if_pos ⟨rfl, hbefore⟩, List.append_nil]
  | cons c cs ih =>
      rw [List.mem_cons, not_or] at hquote hslash
      have hclosed : closes (c :: before) = true := by
        rw [closes, List.takeWhile_cons_of_neg (by
          rw [beq_iff_eq]
          exact fun h => hslash.1 h.symm)]
        rfl
      rw [List.cons_append, readFrom, if_neg fun h => hquote.1 h.1.symm,
        ih hclosed hquote.2 hslash.2, List.reverse_cons, List.append_assoc,
        List.singleton_append]

/-- Reading divides the text at a quote. -/
theorem append_of_readFrom {before cs body rest : List Char}
    (h : readFrom before cs = some (body, rest)) : before.reverse ++ cs = body ++ '"' :: rest := by
  induction cs generalizing before with
  | nil => exact absurd h (by simp only [readFrom, reduceCtorEq, not_false_eq_true])
  | cons c cs ih =>
      rw [readFrom] at h
      by_cases hc : c = '"' ∧ closes before = true
      · rw [if_pos hc, Option.some.injEq, Prod.mk.injEq] at h
        rw [h.1, h.2, hc.1]
      · rw [if_neg hc] at h
        rw [← ih h, List.reverse_cons, List.append_assoc, List.singleton_append]

theorem length_byte {n : Nat} {escaped : List UInt8} (h : byte? n = some escaped) :
    escaped.length = 1 := by
  unfold byte? at h
  split at h
  · rw [← Option.some.inj h]
    rfl
  · cases h

/-- A character takes four bytes at most. -/
theorem universal_bounds {count used : Nat} {cs : List Char} {escaped : List UInt8}
    (hcount : 3 ≤ count) (h : universal? count cs = some (escaped, used)) :
    escaped.length ≤ used ∧ used ≤ cs.length + 1 := by
  unfold universal? at h
  split at h
  · next hlength =>
      obtain ⟨c, -, heq⟩ := Option.map_eq_some_iff.mp h
      rw [Prod.mk.injEq] at heq
      have hsize := c.utf8Size_le_four
      rw [← heq.1, ← heq.2, String.length_utf8EncodeChar]
      omega
  · cases h

theorem numbered_bounds {before used : Nat} {digits : List Char} {n : Option Nat}
    {escaped : List UInt8} (h : numbered? before digits n = some (escaped, used)) :
    escaped.length ≤ used ∧ used = before + digits.length := by
  unfold numbered? at h
  split at h
  · cases h
  · next hdigits =>
      obtain ⟨_, hbyte, heq⟩ := Option.map_eq_some_iff.mp h
      obtain ⟨k, -, hbyte⟩ := Option.bind_eq_some_iff.mp hbyte
      rw [Prod.mk.injEq] at heq
      have hpos := List.length_pos_iff.mpr hdigits
      rw [← heq.1, ← heq.2, length_byte hbyte]
      omega

/-- An escape is not shorter than what it stands for, and takes no more than
    there is. -/
theorem escape_bounds {cs : List Char} {escaped : List UInt8} {used : Nat}
    (h : escape? cs = some (escaped, used)) : escaped.length ≤ used ∧ used ≤ cs.length := by
  cases cs with
  | nil => cases h
  | cons c cs =>
      rw [List.length_cons]
      simp only [escape?] at h
      -- A letter, the name of a character with four digits or eight, a number in base 16 or 8.
      split at h
      · rw [Option.some.injEq, Prod.mk.injEq] at h
        rw [← h.1, ← h.2, List.length_singleton]
        omega
      · split at h
        · exact universal_bounds (by omega) h
        · split at h
          · exact universal_bounds (by omega) h
          · split at h
            · have hbounds := numbered_bounds h
              have hdigits := (List.takeWhile_sublist isHexDigit (l := cs)).length_le
              omega
            · have hbounds := numbered_bounds h
              have hdigits :=
                (List.takeWhile_sublist isOctalDigit (l := (c :: cs).take 3)).length_le
              have htake := (List.take_sublist 3 (c :: cs)).length_le
              rw [List.length_cons] at htake
              omega

theorem bytes_cons (c : Char) (cs : List Char) :
    bytes (c :: cs) = String.utf8EncodeChar c ++ bytes cs := rfl

/-- A character that is no backslash stands for itself. -/
theorem valueFrom_plain {c : Char} (hc : c ≠ '\\') (cs : List Char) :
    valueFrom 0 (c :: cs) = (valueFrom 0 cs).map (String.utf8EncodeChar c ++ ·) := by
  rw [valueFrom, if_neg hc]

/-- A backslash starts an escape, and the value goes on after it. -/
theorem exists_escape {cs : List Char} {v : List UInt8} (h : valueFrom 0 ('\\' :: cs) = some v) :
    ∃ escaped used rest, escape? cs = some (escaped, used) ∧ valueFrom used cs = some rest ∧
      escaped ++ rest = v := by
  rw [valueFrom, if_pos rfl] at h
  obtain ⟨⟨escaped, used⟩, hescape, hrest⟩ := Option.bind_eq_some_iff.mp h
  obtain ⟨rest, hrest, heq⟩ := Option.map_eq_some_iff.mp hrest
  exact ⟨escaped, used, rest, hescape, hrest, heq⟩

/-- An escape and what follows it stand for no more bytes than they are written
    with, even without the backslash. -/
theorem length_escape {cs : List Char} {escaped rest : List UInt8} {used : Nat}
    (h : escape? cs = some (escaped, used))
    (hrest : rest.length ≤ (bytes (cs.drop used)).length) :
    (escaped ++ rest).length ≤ (bytes cs).length := by
  obtain ⟨hshort, hused⟩ := escape_bounds h
  have htaken : used ≤ (bytes (cs.take used)).length := by
    have hlength := length_le_bytes (cs.take used)
    rwa [List.length_take, Nat.min_eq_left hused] at hlength
  have hdivide : (bytes cs).length =
      (bytes (cs.take used)).length + (bytes (cs.drop used)).length := by
    rw [← List.length_append, ← bytes_append, List.take_append_drop]
  rw [List.length_append]
  omega

/-- A body stands for no more bytes than it is written with. What an escape takes
    is counted where it starts, and is passed over after that. -/
theorem length_valueFrom {skip : Nat} {cs : List Char} {v : List UInt8}
    (h : valueFrom skip cs = some v) : v.length ≤ (bytes (cs.drop skip)).length := by
  induction cs generalizing skip v with
  | nil =>
      rw [valueFrom, Option.some.injEq] at h
      rw [← h]
      exact Nat.zero_le _
  | cons c cs ih =>
      cases skip with
      | succ skip =>
          rw [valueFrom] at h
          exact ih h
      | zero =>
          rw [List.drop_zero, bytes_cons, List.length_append]
          by_cases hc : c = '\\'
          · rw [hc] at h
            obtain ⟨escaped, used, rest, hescape, hrest, rfl⟩ := exists_escape h
            have hlength := length_escape hescape (ih hrest)
            omega
          · rw [valueFrom_plain hc] at h
            obtain ⟨rest, hrest, rfl⟩ := Option.map_eq_some_iff.mp h
            have hlength := ih hrest
            rw [List.drop_zero] at hlength
            rw [List.length_append]
            omega

/-- A body stands for the bytes it is written with only if there is no escape in
    it, since each escape makes it shorter. -/
theorem value_eq_bytes_iff (cs : List Char) : value cs = some (bytes cs) ↔ '\\' ∉ cs := by
  unfold value
  induction cs with
  | nil => exact iff_of_true rfl List.not_mem_nil
  | cons c cs ih =>
      rw [bytes_cons, List.mem_cons, not_or]
      by_cases hc : c = '\\'
      · refine iff_of_false (fun h => ?_) (fun h => h.1 hc.symm)
        rw [hc] at h
        obtain ⟨escaped, used, rest, hescape, hrest, heq⟩ := exists_escape h
        have hlength := length_escape hescape (length_valueFrom hrest)
        rw [heq, List.length_append, String.length_utf8EncodeChar] at hlength
        have hpos := Char.utf8Size_pos '\\'
        omega
      · rw [valueFrom_plain hc, ← ih, and_iff_right (fun h => hc h.symm)]
        constructor
        · intro h
          obtain ⟨rest, hrest, heq⟩ := Option.map_eq_some_iff.mp h
          rw [hrest, List.append_cancel_left heq]
        · intro h
          rw [h, Option.map_some]

-- All kinds of escape, each of them longer than its bytes.
example : value "\\x41\\102\\n\\u00e9".toList = some [0x41, 0x42, 0x0A, 0xC3, 0xA9] := by
  decide +kernel

/-- A text without quotes and backslashes is the body of the literal that it
    starts. -/
theorem read_plain {cs : List Char} (hquote : '"' ∉ cs) (hslash : '\\' ∉ cs)
    (rest : List Char) : read (cs ++ '"' :: rest) = some (cs, rest) :=
  readFrom_plain (show closes [] = true from rfl) hquote hslash rest

/-- A text is read back from between quotes if it has neither a quote nor a
    backslash in it. -/
theorem parse_append_iff (cs rest : List Char) :
    parse (cs ++ '"' :: rest) = some (bytes cs, rest) ↔ '"' ∉ cs ∧ '\\' ∉ cs := by
  constructor
  · intro h
    obtain ⟨⟨body, rest'⟩, hread, hmap⟩ := Option.bind_eq_some_iff.mp h
    obtain ⟨v, hvalue, heq⟩ := Option.map_eq_some_iff.mp hmap
    rw [Prod.mk.injEq] at heq
    rw [heq.1] at hvalue
    rw [heq.2] at hread
    -- The literal ends where the text does, so the text is its body.
    have hbody : cs = body := List.append_cancel_right (append_of_readFrom hread)
    rw [← hbody] at hvalue hread
    have hslash := (value_eq_bytes_iff cs).mp hvalue
    refine ⟨fun hquote => ?_, hslash⟩
    -- The first quote in the text would have ended it earlier.
    obtain ⟨first, later, rfl, hfirst⟩ := List.eq_append_cons_of_mem hquote
    rw [List.mem_append, not_or] at hslash
    rw [List.append_assoc, List.cons_append, read_plain hfirst hslash.1, Option.some.injEq,
      Prod.mk.injEq] at hread
    exact List.cons_ne_nil '"' later (List.self_eq_append_right.mp hread.1)
  · rintro ⟨hquote, hslash⟩
    rw [parse, read_plain hquote hslash]
    simp only [Option.bind_some, (value_eq_bytes_iff cs).mpr hslash, Option.map_some]

end Literal

namespace Word

/-- The entry after its first quote. -/
def afterQuote (word : Word) : List Char :=
  (word.entry.toList.dropWhile (· != '"')).tail

/-- The entry after the quote that closes the key. -/
def afterKey (word : Word) : List Char :=
  (", " ++ word.text ++ " \x7d,").toList

theorem afterQuote_eq (word : Word) :
    word.afterQuote = word.key.toList ++ '"' :: word.afterKey := by
  have hopen : "\x7b \"".toList = ['\x7b', ' ', '"'] := by decide
  have hclose : "\", ".toList = '"' :: ", ".toList := by decide
  rw [afterQuote, afterKey, entry]
  simp only [String.toList_append, hopen, hclose, List.append_assoc, List.cons_append,
    List.nil_append]
  rfl

/-- A key is read back from the table as the string literal that it stands in, up
    to the end of that literal, exactly if the word has neither a quote nor a
    backslash in it. -/
theorem literal_reads_key_iff (word : Word) :
    Literal.parse word.afterQuote = some (Literal.bytes word.key.toList, word.afterKey) ↔
      '"' ∉ word.chars ∧ '\\' ∉ word.chars := by
  rw [afterQuote_eq, Literal.parse_append_iff, toList_key,
    Text.mem_lower_iff (by decide) (by decide +kernel),
    Text.mem_lower_iff (by decide) (by decide +kernel)]

/-- An enumerator that is given the value of a quote ends its own literal. -/
theorem literal_cut_short :
    ∃ word ∈ ({} : Markers).words "Keyword\nQUOTE = '\"', // 34\nTEOF\n",
      word.entry = "\x7b \"quote = '\"'\", QUOTE = '\"' \x7d," ∧
      Literal.parse word.afterQuote =
        some (Literal.bytes "quote = '".toList, "'\", QUOTE = '\"' \x7d,".toList) ∧
      Literal.parse word.afterQuote ≠ some (Literal.bytes word.key.toList, word.afterKey) := by
  decide +kernel

end Word

end KeywordTable
