import KeywordTable.Terminal.Console

/-!
# What a Plain Stream Shows

A stream that understands no escape sequences walks over what is printed and
drops the sequences and the controls. It keeps a state from one text to the next,
so what it shows of a text depends on all that was printed before. It does not
if every text ends where it began, outside any sequence. Then a text is shown
the same wherever it is printed, and `Shows` says as what.

Texts of this kind can be put together. A text without controls is one, and is
shown as it is. A text of control sequences is one, and is not shown at all,
whatever the sequences ask for. What is told to the user is made of these two, so
it is shown as it would have been written without any styles, and a field that
was filled up with blanks is as wide as it was meant to be.

Only the controls of ASCII are in question. Those that Unicode has from U+0080
on are no part of any sequence here, and are shown.

## Main definitions

* `IsClean`: The text has no controls but white space.
* `Shows`: What is shown of a text, wherever it is printed.
* `AreSequences`: The text is control sequences and nothing else.
* `plainLine`: A line that starts with a status, without any styles.
* `ReadsAs`: What a text is without its sequences, alone or on a stream.
* `IsAlignedRight`: A text stands at the right end of a field.

## Theorems

* `walk_cons`: A walk takes one character after the other.
* `shows_append`: Texts that follow one another are shown one after the other.
* `shows_clean`: A clean text is shown as it is.
* `walk_parameters`: Parameters go on a control sequence.
* `shows_sequences`: Control sequences are not shown.
* `areSequences_start`, `areSequences_stop`: A style writes control sequences.
* `shows_between`: A text is shown the same, whatever sequences it stands between.
* `shows_statusLine`: A line with a status is shown without its styles.
* `Printed.addPlain_of_shows`: Printing adds what is shown.
* `statusLine_without_styles`: A line with a status reads the same in all styles.
-/

namespace KeywordTable

namespace Terminal

/-- The text has no controls of ASCII but white space. -/
def IsClean (cs : List Char) : Prop :=
  ∀ c ∈ cs, c.toNat < 0x20 ∨ c.toNat = 0x7F → isWhiteControl c = true

instance (cs : List Char) : Decidable (IsClean cs) :=
  List.decidableBAll _ cs

theorem isClean_append {xs ys : List Char} : IsClean (xs ++ ys) ↔ IsClean xs ∧ IsClean ys :=
  List.forall_mem_append

theorem IsClean.mono {xs ys : List Char} (h : IsClean ys) (hsub : ∀ c ∈ xs, c ∈ ys) : IsClean xs :=
  fun c hc => h c (hsub c hc)

namespace PlainState

/-- What was kept before stays below what is kept of the rest. -/
theorem foldl_step (atWhite : ShortSequence → PlainState) (state : PlainState)
    (kept cs : List Char) :
    cs.foldl (step atWhite) (state, kept) =
      ((cs.foldl (step atWhite) (state, [])).1,
        (cs.foldl (step atWhite) (state, [])).2 ++ kept) := by
  induction cs generalizing state kept with
  | nil => rfl
  | cons c cs ih =>
      simp only [List.foldl_cons, step]
      -- The walk is the same on both sides, and only what lies below differs.
      by_cases hkeep : (state.next atWhite c).2 = true
      · rw [if_pos hkeep, if_pos hkeep, ih _ (c :: kept), ih _ [c], List.append_assoc]
        rfl
      · rw [if_neg hkeep, if_neg hkeep, ih _ kept]

/-- A walk takes one character after the other. -/
theorem walk_cons (atWhite : ShortSequence → PlainState) (state : PlainState) (c : Char)
    (cs : List Char) :
    walk atWhite state (c :: cs) =
      ((walk atWhite (state.next atWhite c).1 cs).1,
        (if (state.next atWhite c).2 then [c] else [])
          ++ (walk atWhite (state.next atWhite c).1 cs).2) := by
  simp only [walk, List.foldl_cons, step]
  rw [foldl_step]
  by_cases hkeep : (state.next atWhite c).2 = true
  · simp only [hkeep, if_true, List.reverse_append, List.reverse_singleton]
  · simp only [hkeep, if_false, List.append_nil, List.nil_append, Bool.false_eq_true]

/-- A walk over two texts is two walks, the second from where the first has
    ended. -/
theorem walk_append (atWhite : ShortSequence → PlainState) (state : PlainState)
    (xs ys : List Char) :
    walk atWhite state (xs ++ ys) =
      ((walk atWhite (walk atWhite state xs).1 ys).1,
        (walk atWhite state xs).2 ++ (walk atWhite (walk atWhite state xs).1 ys).2) := by
  induction xs generalizing state with
  | nil => rfl
  | cons c xs ih => rw [List.cons_append, walk_cons, walk_cons, ih, List.append_assoc]

end PlainState

open PlainState (walk walk_cons walk_append)

/-- Printed outside any sequence the text is shown like this, and ends outside
    any sequence. -/
def Shows (cs shown : List Char) : Prop :=
  ∀ atWhite, walk atWhite .ground cs = (.ground, shown)

/-- Texts that follow one another are shown one after the other. -/
theorem shows_append {xs ys shown shown' : List Char} (hx : Shows xs shown) (hy : Shows ys shown') :
    Shows (xs ++ ys) (shown ++ shown') := by
  intro atWhite
  rw [walk_append, hx atWhite, hy atWhite]

/-- Outside any sequence a character that is no control, or white space, leads
    nowhere and is kept. -/
theorem next_ground {c : Char} (h : c.toNat < 0x20 ∨ c.toNat = 0x7F → isWhiteControl c = true)
    (atWhite : ShortSequence → PlainState) :
    PlainState.next atWhite .ground c = (.ground, true) := by
  have hescape : c ≠ '\x1b' := by
    rintro rfl
    exact absurd (h (by decide)) (by decide)
  have hcancel : ¬ (c = '\x18' ∨ c = '\x1a') := by
    rintro (rfl | rfl)
    · exact absurd (h (by decide)) (by decide)
    · exact absurd (h (by decide)) (by decide)
  have hkept : isKept c = true := by
    unfold isKept
    by_cases hcontrol : c.toNat < 0x20 ∨ c.toNat = 0x7F
    · rw [h hcontrol, Bool.true_or]
    · simp only [Bool.or_eq_true, Bool.and_eq_true, decide_eq_true_eq, bne_iff_ne]
      exact Or.inr ⟨by omega, by omega⟩
  simp only [PlainState.next, if_neg hescape, if_neg hcancel, hkept]

/-- A clean text is shown as it is. -/
theorem shows_clean {cs : List Char} (h : IsClean cs) : Shows cs cs := by
  intro atWhite
  induction cs with
  | nil => rfl
  | cons c cs ih =>
      rw [walk_cons, next_ground (h c List.mem_cons_self),
        ih fun d hd => h d (List.mem_cons_of_mem c hd)]
      rfl

/-- In a control sequence only the last character leads out. -/
theorem next_control {c : Char} (h : 0x20 ≤ c.toNat) (atWhite : ShortSequence → PlainState) :
    PlainState.next atWhite (.short .control) c =
      (if inCodes 0x40 0x7E c then .ground else .short .control, false) := by
  -- The characters that every sequence minds are controls.
  have hne : ∀ d : Char, d.toNat < 0x20 → c ≠ d := by
    rintro d hd rfl
    omega
  have hwhite : isWhiteControl c = false := by
    simp only [isWhiteControl, hne '\t' (by decide), hne '\n' (by decide),
      hne '\x0c' (by decide), hne '\r' (by decide), beq_eq_false_iff_ne, Bool.or_eq_false_iff,
      ne_eq, not_false_eq_true, and_self]
  simp only [PlainState.next, hne '\x1b' (by decide), hne '\x18' (by decide),
    hne '\x1a' (by decide), or_self, if_false, hwhite, Bool.false_eq_true, ShortSequence.next]

/-- Parameters go on a control sequence. -/
theorem walk_parameters {cs : List Char} (h : ∀ c ∈ cs, inCodes 0x20 0x3F c = true)
    (atWhite : ShortSequence → PlainState) :
    walk atWhite (.short .control) cs = (.short .control, []) := by
  induction cs with
  | nil => rfl
  | cons c cs ih =>
      have hcode := h c List.mem_cons_self
      simp only [inCodes, Bool.and_eq_true, decide_eq_true_eq] at hcode
      have hends : inCodes 0x40 0x7E c = false := by
        simp only [inCodes, Bool.and_eq_false_iff, decide_eq_false_iff_not]
        exact Or.inl (by omega)
      rw [walk_cons, next_control hcode.1, hends, if_neg Bool.false_ne_true,
        ih fun d hd => h d (List.mem_cons_of_mem c hd)]
      rfl

/-- The text is control sequences and nothing else. Each has any number of
    parameters and ends at the first letter or mark after them. -/
inductive AreSequences : List Char → Prop where
  | nil : AreSequences []
  | cons {parameters rest : List Char} {last : Char}
      (hparameters : ∀ c ∈ parameters, inCodes 0x20 0x3F c = true)
      (hlast : inCodes 0x40 0x7E last = true) (hrest : AreSequences rest) :
      AreSequences ('\x1b' :: '[' :: (parameters ++ last :: rest))

theorem areSequences_append {xs ys : List Char} (hx : AreSequences xs) (hy : AreSequences ys) :
    AreSequences (xs ++ ys) := by
  induction hx with
  | nil => exact hy
  | cons hparameters hlast _ ih =>
      simpa only [List.cons_append, List.append_assoc] using .cons hparameters hlast ih

/-- Control sequences are not shown. -/
theorem shows_sequences {cs : List Char} (h : AreSequences cs) : Shows cs [] := by
  intro atWhite
  induction h with
  | nil => rfl
  | @cons parameters rest last hparameters hlast _ ih =>
      have hopen : walk atWhite .ground ['\x1b', '['] = (.short .control, []) := rfl
      have hcode : 0x20 ≤ last.toNat := by
        simp only [inCodes, Bool.and_eq_true, decide_eq_true_eq] at hlast
        omega
      have hclose : walk atWhite (.short .control) (last :: rest) = (.ground, []) := by
        rw [walk_cons, next_control hcode, if_pos hlast, ih]
        rfl
      rw [show '\x1b' :: '[' :: (parameters ++ last :: rest)
          = ['\x1b', '['] ++ (parameters ++ last :: rest) from rfl,
        walk_append, walk_append, hopen, walk_parameters hparameters, hclose]
      rfl

theorem areSequences_sequence {code : String} (h : code.toList.all (inCodes 0x20 0x3F) = true) :
    AreSequences (Style.sequence code).toList := by
  have hopen : "\x1b[".toList = ['\x1b', '['] := by decide
  have hclose : "m".toList = ['m'] := by decide
  rw [Style.sequence, String.toList_append, String.toList_append, hopen, hclose]
  exact .cons (List.all_eq_true.mp h) (by decide) .nil

theorem areSequences_optional {text : String} (h : AreSequences text.toList) (given : Bool) :
    AreSequences (if given then text else "").toList := by
  cases given with
  | true => exact h
  | false => exact .nil

/-- A style writes nothing but sequences before a text. -/
theorem areSequences_start (style : Style) : AreSequences style.start.toList := by
  have hbold : AreSequences (Style.sequence "1").toList := areSequences_sequence (by decide)
  have hdimmed : AreSequences (Style.sequence "2").toList := areSequences_sequence (by decide)
  have hweight := areSequences_append (areSequences_optional hbold style.bold)
    (areSequences_optional hdimmed style.dimmed)
  unfold Style.start
  rw [String.toList_append, String.toList_append]
  cases style.color with
  | none => exact areSequences_append hweight .nil
  | some color =>
      have hcolor : AreSequences (Style.sequence color.code).toList := by
        cases color <;> exact areSequences_sequence (by decide)
      exact areSequences_append hweight hcolor

/-- Nor does it after the text. -/
theorem areSequences_stop (style : Style) : AreSequences style.stop.toList := by
  unfold Style.stop
  by_cases hplain : style = Style.plain
  · rw [if_pos hplain]
    exact .nil
  · rw [if_neg hplain]
    exact areSequences_sequence (by decide)

/-- A text is shown the same, whatever sequences it stands between. -/
theorem shows_between {before text after : String} {shown : List Char}
    (hbefore : AreSequences before.toList) (h : Shows text.toList shown)
    (hafter : AreSequences after.toList) : Shows (before ++ text ++ after).toList shown := by
  have hline := shows_append (shows_append (shows_sequences hbefore) h) (shows_sequences hafter)
  rw [List.nil_append, List.append_nil] at hline
  rw [String.toList_append, String.toList_append]
  exact hline

/-- A line that starts with a status, without any styles. -/
def plainLine (status : String) (message : Option String) (justified : Bool) : String :=
  (if justified then alignRight statusWidth status else status ++ ":")
    ++ message.elim " " fun text => " " ++ text ++ "\n"

theorem isClean_alignRight {text : String} (h : IsClean text.toList) (width : Nat) :
    IsClean (alignRight width text).toList := by
  rw [alignRight, String.toList_append, String.toList_ofList, isClean_append]
  refine ⟨fun c hc => ?_, h⟩
  rw [List.eq_of_mem_replicate hc]
  decide

/-- A line with a status is shown without the sequences that set it off. -/
theorem shows_statusLineIn {status before after : String} {message : Option String}
    (hstatus : IsClean status.toList) (hmessage : ∀ text ∈ message, IsClean text.toList)
    (hbefore : AreSequences before.toList) (hafter : AreSequences after.toList)
    (justified : Bool) :
    Shows (statusLineIn before after status message justified).toList
      (plainLine status message justified).toList := by
  unfold statusLineIn plainLine
  rw [String.toList_append, String.toList_append]
  refine shows_append ?_ ?_
  · cases justified with
    | true =>
        exact shows_between hbefore (shows_clean (isClean_alignRight hstatus statusWidth)) hafter
    | false =>
        have hcolon : Shows (Style.dim.paint ":").toList ":".toList :=
          shows_between (areSequences_start _) (shows_clean (by decide)) (areSequences_stop _)
        have hline := shows_append (shows_between hbefore (shows_clean hstatus) hafter) hcolon
        rw [← String.toList_append, ← String.toList_append] at hline
        exact hline
  · cases message with
    | none => exact shows_clean (by decide)
    | some text =>
        refine shows_clean ?_
        simp only [String.toList_append, isClean_append]
        exact ⟨⟨by decide, hmessage text rfl⟩, by decide⟩

/-- A line with a status is shown without its styles. -/
theorem shows_statusLine {status : String} {message : Option String}
    (hstatus : IsClean status.toList) (hmessage : ∀ text ∈ message, IsClean text.toList)
    (style : Style) (justified : Bool) :
    Shows (statusLine style status message justified).toList
      (plainLine status message justified).toList :=
  shows_statusLineIn hstatus hmessage (areSequences_start style) (areSequences_stop style) justified

-- The styles are gone, and so is the sequence that a status brings along.
example : (PlainState.print .ground (statusLine .header "a\x1b[1mb" none false)).2 = "ab: " := by
  decide +kernel

/-- Printing adds what is shown. -/
theorem Printed.addPlain_of_shows {p : Printed} (hp : p.state = .ground) {text shown : String}
    (h : Shows text.toList shown.toList) :
    p.addPlain text = { text := p.text ++ shown, state := .ground } := by
  have hprint : PlainState.print .ground text = (.ground, shown) := by
    unfold PlainState.print
    rw [show PlainState.resumed .ground = .ground from rfl, h PlainState.suspended]
    simp only [String.ofList_toList]
  simp only [addPlain, hp, hprint]

/-- Without its sequences the text is the plain one, whether it stands alone or
    is printed on a stream. -/
structure ReadsAs (text plain : String) : Prop where
  alone : plainText text = plain
  printed : ∀ p : Printed, p.state = .ground →
    p.addPlain text = { text := p.text ++ plain, state := .ground }

theorem readsAs_of_shows {text plain : String} (h : Shows text.toList plain.toList) :
    ReadsAs text plain where
  alone := by rw [plainText, h, String.ofList_toList]
  printed _ hp := Printed.addPlain_of_shows hp h

/-- The field is as wide as asked for, and wider only if the text is. The text
    stands at its right end, with nothing but blanks before it. -/
structure IsAlignedRight (width : Nat) (text field : List Char) : Prop where
  length : field.length = max width text.length
  ends : text <:+ field
  blanks : ∀ c ∈ field.take (field.length - text.length), c = ' '

theorem isAlignedRight_alignRight (width : Nat) (text : String) :
    IsAlignedRight width text.toList (alignRight width text).toList := by
  rw [alignRight, String.toList_append, String.toList_ofList, ← String.length_toList]
  refine ⟨?_, List.suffix_append _ _, ?_⟩
  · rw [List.length_append, List.length_replicate]
    omega
  · intro c hc
    -- All that is taken stands before the text.
    rw [List.length_append, Nat.add_sub_cancel, List.take_left] at hc
    exact List.eq_of_mem_replicate hc

/-- Without styles a line reads the same in every style, and whatever sequences
    stand before the status and after it. It starts with the status, at the right
    end of its field or with a colon, and the message follows if there is one. -/
theorem statusLine_without_styles {status : String} {message : Option String}
    (hstatus : IsClean status.toList) (hmessage : ∀ text ∈ message, IsClean text.toList)
    (justified : Bool) :
    ∃ head : String,
      (justified = true → IsAlignedRight 13 status.toList head.toList) ∧
      (justified = false → head = status ++ ":") ∧
      (∀ style : Style, ReadsAs (statusLine style status message justified)
        (head ++ message.elim " " fun text => " " ++ text ++ "\n")) ∧
      ∀ before after : String, AreSequences before.toList → AreSequences after.toList →
        ReadsAs (statusLineIn before after status message justified)
          (head ++ message.elim " " fun text => " " ++ text ++ "\n") := by
  refine ⟨if justified then alignRight statusWidth status else status ++ ":", ?_, ?_, ?_, ?_⟩
  · rintro rfl
    exact isAlignedRight_alignRight statusWidth status
  · rintro rfl
    rfl
  · intro style
    exact readsAs_of_shows (shows_statusLine hstatus hmessage style justified)
  · intro before after hbefore hafter
    exact readsAs_of_shows (shows_statusLineIn hstatus hmessage hbefore hafter justified)

/-- A status in letters of more than one byte, with an underline and a colour that
    no style here has. -/
theorem statusLine_without_underline :
    IsClean "Größe".toList ∧ IsClean "5 µs".toList ∧
      ∃ head : String, IsAlignedRight 13 "Größe".toList head.toList ∧
        ReadsAs (statusLineIn (Style.sequence "4:3" ++ Style.sequence "38;2;255;128;0")
          (Style.sequence "0") "Größe" (some "5 µs") true) (head ++ (" " ++ "5 µs" ++ "\n")) := by
  have hstatus : IsClean "Größe".toList := by decide
  have hmessage : IsClean "5 µs".toList := by decide
  have hunderline : AreSequences (Style.sequence "4:3").toList := areSequences_sequence (by decide)
  have hcolor : AreSequences (Style.sequence "38;2;255;128;0").toList :=
    areSequences_sequence (by decide)
  have hbefore := areSequences_append hunderline hcolor
  rw [← String.toList_append] at hbefore
  have hafter : AreSequences (Style.sequence "0").toList := areSequences_sequence (by decide)
  have hmessages : ∀ text ∈ some "5 µs", IsClean text.toList := by
    rintro _ ⟨⟩
    exact hmessage
  obtain ⟨head, hfield, -, -, hreads⟩ := statusLine_without_styles hstatus hmessages true
  exact ⟨hstatus, hmessage, head, hfield rfl, hreads _ _ hbefore hafter⟩

end Terminal

end KeywordTable
