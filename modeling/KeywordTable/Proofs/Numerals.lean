import KeywordTable.Toml.Number

/-!
# Writing Numbers and Dates

The values of a document that are neither strings nor hold other values. None of
them can be a setting, but they may stand in an array after the settings, and a
document is not read at all unless each of its values is.

What a number or a date looks like is given by relations, with what it stands
for as far as that decides whether it can be read: an integer has to fit
sixty-four bits, a decimal number must not round to positive infinity, and a day
has to exist. The reader settles the kind of a value from its first characters.
It does so rightly because a number is never four digits with a hyphen after
them, or two with a colon.

## Main definitions

* `delimiters`: The characters that may follow a value.
* `Digits`: Digits with single underscores between them.
* `IsNumber`: An integer or a floating point number.
* `IsMoment`: A date, a time, or both.
* `IsAtom`: Any value that is neither a string nor holds other values.

## Theorems

* `Delimited.ne`: No mark of a number or a time follows a value.
* `digitRun_digits`: Grouped digits are read as the digits alone.
* `numeric_number`: A number is read.
* `numeric_moment`: A date or a time is read.
-/

namespace KeywordTable

namespace Toml

/-- The characters that may follow a value. -/
def delimiters : List Char := [' ', '\t', '#', '\n', '\r', ',', ']', '\x7d']

/-- What is said of each of some characters can be checked one by one. -/
theorem forall_of_all {p : Char → Prop} [DecidablePred p] {cs : List Char}
    (h : (cs.all fun c => decide (p c)) = true) : ∀ c ∈ cs, p c :=
  fun c hc => of_decide_eq_true (List.all_eq_true.mp h c hc)

/-- A value may end here. -/
def Delimited (rest : List Char) : Prop :=
  ∀ c ∈ rest.head?, c ∈ delimiters

/-- Characters of one kind are taken up to the first of another. -/
theorem span_append {p : Char → Bool} {cs rest : List Char} (h : ∀ c ∈ cs, p c = true)
    (hrest : ∀ c ∈ rest.head?, p c = false) :
    (cs ++ rest).takeWhile p = cs ∧ (cs ++ rest).dropWhile p = rest := by
  rw [List.takeWhile_append_of_pos h, List.dropWhile_append_of_pos h]
  cases rest with
  | nil => exact ⟨List.append_nil cs, rfl⟩
  | cons c rest =>
      have hc : ¬ p c = true := by
        rw [hrest c rfl]
        exact Bool.false_ne_true
      rw [List.takeWhile_cons_of_neg hc, List.dropWhile_cons_of_neg hc]
      exact ⟨List.append_nil cs, rfl⟩

/-! ### Digits -/

/-- Digits with single underscores between them, and the digits alone. -/
inductive Digits (isDigit : Char → Bool) : List Char → List Char → Prop
  | one (d : Char) (hd : isDigit d = true) : Digits isDigit [d] [d]
  | more (d : Char) {cs ds : List Char} (hd : isDigit d = true) (h : Digits isDigit cs ds) :
    Digits isDigit (d :: cs) (d :: ds)
  | group (d : Char) {cs ds : List Char} (hd : isDigit d = true) (h : Digits isDigit cs ds) :
    Digits isDigit (d :: '_' :: cs) (d :: ds)

/-- A digit is no mark. -/
theorem ne_of_digit {isDigit : Char → Bool} {d mark : Char} (hd : isDigit d = true)
    (hmark : isDigit mark = false) : d ≠ mark := by
  rintro rfl
  rw [hmark] at hd
  cases hd

section

variable {isDigit : Char → Bool} (hunder : isDigit '_' = false)
include hunder

theorem isGrouped_digits {cs ds : List Char} (h : Digits isDigit cs ds) (after : Bool) :
    isGrouped after cs = true := by
  induction h generalizing after with
  | one d hd => rw [isGrouped, if_neg (ne_of_digit hd hunder), isGrouped]
  | more d hd _ ih => rw [isGrouped, if_neg (ne_of_digit hd hunder), ih]
  | group d hd _ ih =>
      rw [isGrouped, if_neg (ne_of_digit hd hunder), isGrouped, if_pos rfl, ih, Bool.and_self]

theorem filter_digits {cs ds : List Char} (h : Digits isDigit cs ds) :
    cs.filter (· != '_') = ds := by
  have hkept : ∀ d, isDigit d = true → (d != '_') = true :=
    fun d hd => bne_iff_ne.mpr (ne_of_digit hd hunder)
  induction h with
  | one d hd => simp only [List.filter_cons, hkept d hd, if_true, List.filter_nil]
  | more d hd _ ih => simp only [List.filter_cons, hkept d hd, if_true, ih]
  | group d hd _ ih =>
      simp only [List.filter_cons, hkept d hd, if_true, bne_self_eq_false, Bool.false_eq_true,
        if_false, ih]

omit hunder in
theorem digits_inRun {cs ds : List Char} (h : Digits isDigit cs ds) :
    ∀ c ∈ cs, (isDigit c || c == '_') = true := by
  induction h with
  | one d hd => simp only [List.mem_singleton, forall_eq, hd, Bool.true_or]
  | more d hd _ ih =>
      rw [List.forall_mem_cons]
      exact ⟨by rw [hd, Bool.true_or], ih⟩
  | group d hd _ ih =>
      rw [List.forall_mem_cons, List.forall_mem_cons]
      exact ⟨by rw [hd, Bool.true_or], by rw [beq_self_eq_true, Bool.or_true], ih⟩

/-- Grouped digits are read as the digits alone. -/
theorem digitRun_digits {cs ds rest : List Char} (h : Digits isDigit cs ds)
    (hrest : ∀ c ∈ rest.head?, isDigit c = false ∧ c ≠ '_') :
    digitRun isDigit (cs ++ rest) = some (ds, rest) := by
  have hstop : ∀ c ∈ rest.head?, (isDigit c || c == '_') = false := by
    intro c hc
    rw [(hrest c hc).1, Bool.false_or, beq_eq_false_iff_ne]
    exact (hrest c hc).2
  rcases span_append (digits_inRun h) hstop with ⟨htake, hdrop⟩
  unfold digitRun
  simp only [htake, hdrop, isGrouped_digits hunder h, if_true, filter_digits hunder h]

end

/-- Digits of a number have a first one. -/
theorem head_digits {isDigit : Char → Bool} {cs ds : List Char} (h : Digits isDigit cs ds) :
    ∃ d cs' ds', cs = d :: cs' ∧ ds = d :: ds' ∧ isDigit d = true := by
  cases h with
  | one d hd => exact ⟨d, [], [], rfl, rfl, hd⟩
  | more d hd _ => exact ⟨d, _, _, rfl, rfl, hd⟩
  | group d hd _ => exact ⟨d, _, _, rfl, rfl, hd⟩

/-! ### Numbers -/

/-- A sign, and whether it makes a number negative. -/
inductive Sign : List Char → Bool → Prop
  | none : Sign [] false
  | plus : Sign ['+'] false
  | minus : Sign ['-'] true

/-- The part of a number after a point, if there is one. -/
inductive Fraction : List Char → Option (List Char) → Prop
  | none : Fraction [] none
  | some {cs ds : List Char} (h : Digits Char.isDigit cs ds) : Fraction ('.' :: cs) (some ds)

/-- The exponent of a number, if there is one. -/
inductive Exponent : List Char → Option Int → Prop
  | none : Exponent [] none
  | some {letter : Char} {sign cs ds : List Char} {negative : Bool}
    (hletter : letter = 'e' ∨ letter = 'E') (hsign : Sign sign negative)
    (h : Digits Char.isDigit cs ds) :
    Exponent (letter :: (sign ++ cs))
      (some (if negative then -(ofDigits 10 ds : Int) else ofDigits 10 ds))

/-- The digits of a radix. -/
def isDigitOf (base : Nat) (c : Char) : Bool :=
  (hexDigit? c).any (decide <| · < base)

/-- The number can be kept: an integer fits sixty-four bits, and any other
    number does not round to positive infinity. -/
def Kept (negative : Bool) (whole : List Char) : Option (List Char) → Option Int → Prop
  | none, none => fits negative (ofDigits 10 whole) = true
  | frac, exp => Binary64.ofDecimal negative (ofDigits 10 (whole ++ frac.getD []))
      (exp.getD 0 - (frac.getD []).length) ≠ .infinite false

/-- The characters are a number. -/
inductive IsNumber : List Char → Prop
  | decimal {sign cs whole fracText expText : List Char} {negative : Bool}
    {frac : Option (List Char)} {exp : Option Int} (hsign : Sign sign negative)
    (hwhole : Digits Char.isDigit cs whole)
    (hzero : whole.head? = some '0' → whole.length = 1) (hfrac : Fraction fracText frac)
    (hexp : Exponent expText exp) (hkept : Kept negative whole frac exp) :
    IsNumber (sign ++ (cs ++ (fracText ++ expText)))
  | special {sign name : List Char} {negative : Bool} (hsign : Sign sign negative)
    (hname : name = "inf".toList ∨ name = "nan".toList) : IsNumber (sign ++ name)
  | radix {mark : Char} {base : Nat} {cs ds : List Char}
    (hmark : (mark, base) ∈ [('x', 16), ('o', 8), ('b', 2)]) (h : Digits (isDigitOf base) cs ds)
    (hkept : ofDigits base ds < Nat.pow 2 63) : IsNumber ('0' :: mark :: cs)

/-- Nothing that may follow a value goes on with a number. -/
theorem delimiter_spec : ∀ c ∈ delimiters, c.isDigit = false ∧ hexDigit? c = none ∧
    c ∉ ['_', '.', 'e', 'E', '-', ':', 'x', 'o', 'b'] :=
  forall_of_all (by decide +kernel)

theorem Delimited.not_digit {rest : List Char} (h : Delimited rest) {c : Char}
    (hc : c ∈ rest.head?) : c.isDigit = false :=
  (delimiter_spec c (h c hc)).1

/-- What follows a value is none of the marks that a number or a time has. -/
theorem Delimited.ne {rest : List Char} (h : Delimited rest) {c mark : Char} (hc : c ∈ rest.head?)
    (hmark : mark ∈ ['_', '.', 'e', 'E', '-', ':', 'x', 'o', 'b']) : c ≠ mark := by
  rintro rfl
  exact (delimiter_spec c (h c hc)).2.2 hmark

theorem fraction_append {cs : List Char} {frac : Option (List Char)} (h : Fraction cs frac)
    {rest : List Char} (hrest : ∀ c ∈ rest.head?, c.isDigit = false ∧ c ≠ '_' ∧ c ≠ '.') :
    fraction? (cs ++ rest) = some (frac, rest) := by
  cases h with
  | none =>
      cases rest with
      | nil => rfl
      | cons c rest =>
          rw [List.nil_append, fraction?]
          exact fun _ heq => (hrest c rfl).2.2 (List.head_eq_of_cons_eq heq)
  | some h =>
      have hrun : digitRun Char.isDigit (_ ++ rest) = _ :=
        digitRun_digits (by decide) h fun c hc => ⟨(hrest c hc).1, (hrest c hc).2.1⟩
      rw [List.cons_append, fraction?, hrun]
      rfl

theorem exponent_append {cs : List Char} {exp : Option Int} (h : Exponent cs exp)
    {rest : List Char}
    (hrest : ∀ c ∈ rest.head?, c.isDigit = false ∧ c ≠ '_' ∧ c ≠ 'e' ∧ c ≠ 'E') :
    exponent? (cs ++ rest) = some (exp, rest) := by
  cases h with
  | none =>
      cases rest with
      | nil => rfl
      | cons c rest =>
          rw [List.nil_append, exponent?]
          · exact fun _ heq => (hrest c rfl).2.2.1 (List.head_eq_of_cons_eq heq)
          · exact fun _ heq => (hrest c rfl).2.2.2 (List.head_eq_of_cons_eq heq)
  | @some letter sign cs ds negative hletter hsign h =>
      -- The digits are read in the same way after any sign.
      have hrun : digitRun Char.isDigit (cs ++ rest) = some (ds, rest) :=
        digitRun_digits (by decide) h fun c hc => ⟨(hrest c hc).1, (hrest c hc).2.1⟩
      have hexp : exponent (sign ++ cs ++ rest) =
          some (if negative then -(ofDigits 10 ds : Int) else ofDigits 10 ds, rest) := by
        cases hsign with
        | none =>
            -- The first character is a digit, so no sign is read.
            rcases head_digits h with ⟨d, cs', ds', rfl, rfl, hd⟩
            have hminus : d ≠ '-' := ne_of_digit hd (by decide)
            have hplus : d ≠ '+' := ne_of_digit hd (by decide)
            rw [List.nil_append, exponent]
            · rw [hrun]
              rfl
            · exact fun _ heq => hminus (List.head_eq_of_cons_eq heq)
            · exact fun _ heq => hplus (List.head_eq_of_cons_eq heq)
        | plus =>
            have hstep : exponent ('+' :: (cs ++ rest)) =
                (digitRun Char.isDigit (cs ++ rest)).bind fun r =>
                  some ((ofDigits 10 r.1 : Int), r.2) := rfl
            exact hstep.trans (by rw [hrun]; rfl)
        | minus =>
            have hstep : exponent ('-' :: (cs ++ rest)) =
                (digitRun Char.isDigit (cs ++ rest)).bind fun r =>
                  some (-(ofDigits 10 r.1 : Int), r.2) := rfl
            exact hstep.trans (by rw [hrun]; rfl)
      rcases hletter with rfl | rfl
      · rw [List.cons_append, exponent?, hexp]
        rfl
      · rw [List.cons_append, exponent?, hexp]
        rfl

/-- What comes after the whole part of a number begins with no digit and no
    underscore. -/
theorem head_after_whole {fracText expText rest : List Char} {frac : Option (List Char)}
    {exp : Option Int} (hfrac : Fraction fracText frac) (hexp : Exponent expText exp)
    (hrest : Delimited rest) :
    ∀ c ∈ (fracText ++ (expText ++ rest)).head?,
      c.isDigit = false ∧ c ∉ ['_', '-', ':', 'x', 'o', 'b'] := by
  intro c hc
  cases hfrac with
  | some h =>
      rw [← Option.some.inj hc]
      decide
  | none =>
      cases hexp with
      | some hletter _ _ =>
          rw [← Option.some.inj hc]
          rcases hletter with rfl | rfl <;> decide
      | none =>
          have hsub : ∀ c ∈ ['_', '-', ':', 'x', 'o', 'b'],
              c ∈ ['_', '.', 'e', 'E', '-', ':', 'x', 'o', 'b'] := forall_of_all (by decide)
          exact ⟨hrest.not_digit hc, fun hmark => hrest.ne hc (hsub c hmark) rfl⟩

/-- What comes after the fraction of a number does not go on with it. -/
theorem head_after_fraction {expText rest : List Char} {exp : Option Int}
    (hexp : Exponent expText exp) (hrest : Delimited rest) :
    ∀ c ∈ (expText ++ rest).head?, c.isDigit = false ∧ c ≠ '_' ∧ c ≠ '.' := by
  intro c hc
  cases hexp with
  | some hletter _ _ =>
      rw [← Option.some.inj hc]
      rcases hletter with rfl | rfl <;> decide
  | none => exact ⟨hrest.not_digit hc, hrest.ne hc (by decide), hrest.ne hc (by decide)⟩

/-- A number without its sign is read. -/
theorem unsigned_decimal {negative : Bool} {cs whole fracText expText rest : List Char}
    {frac : Option (List Char)} {exp : Option Int} (hwhole : Digits Char.isDigit cs whole)
    (hzero : whole.head? = some '0' → whole.length = 1) (hfrac : Fraction fracText frac)
    (hexp : Exponent expText exp) (hkept : Kept negative whole frac exp)
    (hrest : Delimited rest) :
    ∃ x, unsigned negative (cs ++ (fracText ++ (expText ++ rest))) = some (x, rest) ∧
      ∀ text, x ≠ .string text := by
  -- Each of the three parts is read up to where the next one begins.
  have hafter := head_after_whole hfrac hexp hrest
  have hrun : digitRun Char.isDigit (cs ++ (fracText ++ (expText ++ rest))) =
      some (whole, fracText ++ (expText ++ rest)) := by
    refine digitRun_digits (by decide) hwhole fun c hc => ⟨(hafter c hc).1, ?_⟩
    rintro rfl
    exact (hafter _ hc).2 (by decide)
  have hfraction : fraction? (fracText ++ (expText ++ rest)) = some (frac, expText ++ rest) :=
    fraction_append hfrac (head_after_fraction hexp hrest)
  have hexponent : exponent? (expText ++ rest) = some (exp, rest) :=
    exponent_append hexp fun c hc => ⟨hrest.not_digit hc, hrest.ne hc (by decide),
      hrest.ne hc (by decide), hrest.ne hc (by decide)⟩
  have hnot : ¬ (whole.head? = some '0' ∧ whole.length ≠ 1) := fun h => h.2 (hzero h.1)
  rcases head_digits hwhole with ⟨d, cs', ds', rfl, rfl, hd⟩
  rw [unsigned]
  · rw [hrun]
    simp only [Option.bind_eq_bind, Option.bind_some, if_neg hnot, hfraction, hexponent]
    -- Without a fraction and an exponent it is an integer, and else a decimal.
    cases frac with
    | none =>
        cases exp with
        | none =>
            have hfits : fits negative (ofDigits 10 (d :: ds')) = true := hkept
            simp only [hfits, if_true]
            exact ⟨_, rfl, fun _ => Scalar.noConfusion⟩
        | some exp =>
            simp only [Kept] at hkept
            simp only [if_neg hkept]
            exact ⟨_, rfl, fun _ => Scalar.noConfusion⟩
    | some frac =>
        simp only [Kept] at hkept
        simp only [if_neg hkept]
        exact ⟨_, rfl, fun _ => Scalar.noConfusion⟩
  · -- A number that begins with a digit is neither of the two that have names.
    exact fun _ heq => ne_of_digit hd (by decide) (List.head_eq_of_cons_eq heq)
  · exact fun _ heq => ne_of_digit hd (by decide) (List.head_eq_of_cons_eq heq)

theorem digits_singleton {isDigit : Char → Bool} {cs : List Char} {d : Char}
    (h : Digits isDigit cs [d]) : cs = [d] := by
  cases h with
  | one _ _ => rfl
  | more _ _ h =>
      rcases head_digits h with ⟨_, _, _, _, hnil, _⟩
      cases hnil
  | group _ _ h =>
      rcases head_digits h with ⟨_, _, _, _, hnil, _⟩
      cases hnil

theorem radixInteger_digits {base : Nat} {cs ds rest : List Char}
    (h : Digits (isDigitOf base) cs ds) (hkept : ofDigits base ds < Nat.pow 2 63)
    (hrest : Delimited rest) :
    radixInteger base (cs ++ rest) = some (.integer (ofDigits base ds), rest) := by
  have hunder : isDigitOf base '_' = false := rfl
  have hrun : digitRun (isDigitOf base) (cs ++ rest) = some (ds, rest) := by
    refine digitRun_digits hunder h fun c hc => ?_
    have hhex : hexDigit? c = none := (delimiter_spec c (hrest c hc)).2.1
    exact ⟨by rw [isDigitOf, hhex]; rfl, hrest.ne hc (by decide)⟩
  unfold radixInteger
  have hsame : (fun c => (hexDigit? c).any (decide <| · < base)) = isDigitOf base := rfl
  rw [hsame, hrun]
  simp only [Option.bind_eq_bind, Option.bind_some, if_pos hkept]
  rfl

/-- A number is read by the reader of numbers. -/
theorem number_isNumber {cs rest : List Char} (h : IsNumber cs) (hrest : Delimited rest) :
    ∃ x, number (cs ++ rest) = some (x, rest) ∧ ∀ text, x ≠ .string text := by
  cases h with
  | @decimal sign cs whole fracText expText negative frac exp hsign hwhole hzero hfrac hexp hkept =>
      have hread := unsigned_decimal hwhole hzero hfrac hexp hkept hrest
      simp only [List.append_assoc]
      cases hsign with
      | plus => exact hread
      | minus => exact hread
      | none =>
          -- A number that begins with a zero goes on with no mark of a radix.
          have hmark : ∀ m t, m ∈ ['x', 'o', 'b'] →
              cs ++ (fracText ++ (expText ++ rest)) ≠ '0' :: m :: t := by
            intro m t hm heq
            rcases head_digits hwhole with ⟨d, cs', ds', rfl, rfl, hd⟩
            rw [List.cons_append, List.cons.injEq] at heq
            rcases heq with ⟨rfl, heq⟩
            have hnil : ds' = [] := List.eq_nil_of_length_eq_zero (Nat.succ.inj (hzero rfl))
            subst hnil
            rw [List.cons.inj (digits_singleton hwhole) |>.2, List.nil_append] at heq
            have hhead := head_after_whole hfrac hexp hrest m (by rw [heq]; rfl)
            have hsub : ∀ c ∈ ['x', 'o', 'b'], c ∈ ['_', '-', ':', 'x', 'o', 'b'] :=
              forall_of_all (by decide)
            exact hhead.2 (hsub m hm)
          have hsign : ∀ m t, m ∈ ['-', '+'] → cs ++ (fracText ++ (expText ++ rest)) ≠ m :: t := by
            intro m t hm heq
            rcases head_digits hwhole with ⟨d, cs', ds', rfl, rfl, hd⟩
            rw [List.cons_append, List.cons.injEq] at heq
            have hfalse : ∀ c ∈ ['-', '+'], ¬ c.isDigit = true := forall_of_all (by decide)
            exact hfalse m hm (heq.1 ▸ hd)
          rw [List.nil_append, number]
          · exact hread
          · exact fun t => hmark 'x' t (by decide)
          · exact fun t => hmark 'o' t (by decide)
          · exact fun t => hmark 'b' t (by decide)
          · exact fun t => hsign '-' t (by decide)
          · exact fun t => hsign '+' t (by decide)
  | special hsign hname =>
      rcases hname with rfl | rfl <;> cases hsign <;> exact ⟨_, rfl, fun _ h => nomatch h⟩
  | @radix mark base cs ds hmark h hkept =>
      have hread := radixInteger_digits h hkept hrest
      simp only [List.mem_cons, Prod.mk.injEq, List.not_mem_nil, or_false] at hmark
      rcases hmark with ⟨rfl, rfl⟩ | ⟨rfl, rfl⟩ | ⟨rfl, rfl⟩ <;>
        exact ⟨_, hread, fun _ h => nomatch h⟩

/-! ### Telling numbers from dates -/

/-- What starts with digits and a mark has the mark after its first digits. -/
theorem of_startsWith {count : Nat} {mark : Char} {cs : List Char}
    (hmark : mark.isDigit = false) (h : startsWith count mark cs = true) :
    (cs.take count).length = count ∧ (cs.take count).all Char.isDigit = true ∧
      (cs.dropWhile Char.isDigit).head? = some mark := by
  unfold startsWith fixed at h
  simp only at h
  split at h
  · next hfixed =>
      have hhead : (cs.drop count).head? = some mark := beq_iff_eq.mp h
      refine ⟨hfixed.1, hfixed.2.1, ?_⟩
      have hdigits : ∀ c ∈ cs.take count, c.isDigit = true := List.all_eq_true.mp hfixed.2.1
      have hstop : ∀ c ∈ (cs.drop count).head?, c.isDigit = false := by
        intro c hc
        rw [hhead, Option.mem_some_iff] at hc
        rw [← hc]
        exact hmark
      have hdrop := (span_append hdigits hstop).2
      rw [List.take_append_drop] at hdrop
      rw [hdrop, hhead]
  · cases h

/-- After the first digits of grouped ones there is an underscore, or what comes
    after all of them. -/
theorem head_dropWhile_digits {cs ds after : List Char} (h : Digits Char.isDigit cs ds)
    (hafter : ∀ c ∈ after.head?, c.isDigit = false) :
    ∀ c ∈ ((cs ++ after).dropWhile Char.isDigit).head?, c = '_' ∨ c ∈ after.head? := by
  induction h with
  | one d hd =>
      intro c hc
      have hdrop : ([d] ++ after).dropWhile Char.isDigit = after :=
        (span_append (by simpa using hd) hafter).2
      rw [hdrop] at hc
      exact Or.inr hc
  | more d hd _ ih =>
      rw [List.cons_append, List.dropWhile_cons_of_pos hd]
      exact ih
  | group d hd _ _ =>
      intro c hc
      rw [List.cons_append, List.dropWhile_cons_of_pos hd, List.cons_append,
        List.dropWhile_cons_of_neg (by decide)] at hc
      exact Or.inl (Option.some.inj hc).symm

/-- A number does not look like a date or a time. -/
theorem not_startsWith_number {cs rest : List Char} (h : IsNumber cs) (hrest : Delimited rest) :
    startsWith 4 '-' (cs ++ rest) = false ∧ startsWith 2 ':' (cs ++ rest) = false := by
  have hall : ∀ count mark, mark ∈ ['-', ':'] →
      startsWith (count + 1) mark (cs ++ rest) = false := by
    intro count mark hmark
    have hnondigit : ∀ m ∈ ['-', ':'], m.isDigit = false := forall_of_all (by decide)
    rw [Bool.eq_false_iff]
    intro hstarts
    rcases of_startsWith (hnondigit mark hmark) hstarts with ⟨-, hdigits, hhead⟩
    -- Such a text would begin with a digit, and the mark would come after the digits.
    have hfirst : ∀ c t, cs ++ rest = c :: t → c.isDigit = true := by
      intro c t heq
      rw [heq, List.take_succ_cons, List.all_cons, Bool.and_eq_true] at hdigits
      exact hdigits.1
    cases h with
    | decimal hsign hwhole hzero hfrac hexp hkept =>
        cases hsign with
        | plus => cases hfirst _ _ rfl
        | minus => cases hfirst _ _ rfl
        | none =>
            -- After the digits of a whole part comes neither mark.
            have hafter := head_after_whole hfrac hexp hrest
            simp only [List.nil_append, List.append_assoc] at hhead
            rcases head_dropWhile_digits hwhole (fun c hc => (hafter c hc).1) mark hhead with
              rfl | hmem
            · revert hmark
              decide
            · have hsub : ∀ c ∈ ['-', ':'], c ∈ ['_', '-', ':', 'x', 'o', 'b'] :=
                forall_of_all (by decide)
              exact (hafter mark hmem).2 (hsub mark hmark)
    | special hsign hname =>
        rcases hname with rfl | rfl <;> cases hsign <;> cases hfirst _ _ rfl
    | radix hradix _ _ =>
        -- The digits end at once, with the letter of the base.
        simp only [List.mem_cons, Prod.mk.injEq, List.not_mem_nil, or_false] at hradix
        rcases hradix with ⟨rfl, -⟩ | ⟨rfl, -⟩ | ⟨rfl, -⟩ <;>
          (have hx := Option.some.inj hhead; revert hmark; rw [← hx]; decide)
  exact ⟨hall 3 '-' (by decide), hall 1 ':' (by decide)⟩

/-- A number is read. -/
theorem numeric_number {cs rest : List Char} (h : IsNumber cs) (hrest : Delimited rest) :
    ∃ x, numeric (cs ++ rest) = some (x, rest) ∧ ∀ text, x ≠ .string text := by
  rcases not_startsWith_number h hrest with ⟨hdate, htime⟩
  unfold numeric
  rw [hdate, htime, if_neg Bool.false_ne_true, if_neg Bool.false_ne_true]
  exact number_isNumber h hrest

/-! ### Dates and times -/

/-- A number of so many digits between two bounds. -/
structure Field (count low high : Nat) (cs : List Char) (n : Nat) : Prop where
  length : cs.length = count
  digits : ∀ c ∈ cs, c.isDigit = true
  number : ofDigits 10 cs = n
  low : low ≤ n
  high : n ≤ high

/-- A day that exists. -/
inductive IsDate : List Char → Prop
  | mk {y m d : List Char} {year month day : Nat} (hy : Field 4 0 9999 y year)
    (hm : Field 2 1 12 m month) (hd : Field 2 1 (daysIn year month) d day) :
    IsDate (y ++ '-' :: (m ++ '-' :: d))

/-- The part of a second, if there is one. -/
inductive SecondFraction : List Char → Prop
  | none : SecondFraction []
  | some {cs : List Char} (hne : cs ≠ []) (h : ∀ c ∈ cs, c.isDigit = true) :
    SecondFraction ('.' :: cs)

/-- A time of day. -/
inductive IsTime : List Char → Prop
  | mk {h m s frac : List Char} {hour minute second : Nat} (hh : Field 2 0 23 h hour)
    (hm : Field 2 0 59 m minute) (hs : Field 2 0 60 s second) (hfrac : SecondFraction frac) :
    IsTime (h ++ ':' :: (m ++ ':' :: (s ++ frac)))

/-- The distance from the universal time, if there is one. -/
inductive IsOffset : List Char → Prop
  | none : IsOffset []
  | universal {z : Char} (hz : z = 'Z' ∨ z = 'z') : IsOffset [z]
  | distance {sign : Char} {h m : List Char} {hour minute : Nat} (hsign : sign = '+' ∨ sign = '-')
    (hh : Field 2 0 23 h hour) (hm : Field 2 0 59 m minute) : IsOffset (sign :: (h ++ ':' :: m))

/-- A date, a time, or both. -/
inductive IsMoment : List Char → Prop
  | date {cs : List Char} (h : IsDate cs) : IsMoment cs
  | time {cs : List Char} (h : IsTime cs) : IsMoment cs
  | both {date time offset : List Char} {mark : Char} (hmark : mark = 'T' ∨ mark = 't' ∨ mark = ' ')
    (hdate : IsDate date) (htime : IsTime time) (hoffset : IsOffset offset) :
    IsMoment (date ++ mark :: (time ++ offset))

/-- A value may end here, also if it is a date: a blank is not followed by a
    time. -/
def Follows (rest : List Char) : Prop :=
  Delimited rest ∧ ∀ after, rest = ' ' :: after → Delimited after

theorem fixed_append {count low high n : Nat} {cs : List Char} (h : Field count low high cs n)
    (rest : List Char) : fixed count low high (cs ++ rest) = some (n, rest) := by
  have htake : (cs ++ rest).take count = cs := by rw [← h.length, List.take_left]
  have hdrop : (cs ++ rest).drop count = rest := by rw [← h.length, List.drop_left]
  unfold fixed
  simp only [htake, hdrop, h.number]
  rw [if_pos ⟨h.length, List.all_eq_true.mpr h.digits, h.low, h.high⟩]

theorem expect_cons (c : Char) (rest : List Char) : expect c (c :: rest) = some rest := by
  rw [expect, if_pos rfl]

theorem date_append {cs : List Char} (h : IsDate cs) (rest : List Char) :
    date (cs ++ rest) = some rest := by
  cases h with
  | mk hy hm hd =>
      unfold date
      simp only [List.append_assoc, List.cons_append, fixed_append hy, fixed_append hm,
        fixed_append hd, expect_cons, Option.bind_eq_bind, Option.bind_some]
      rfl

theorem secondFraction_append {cs rest : List Char} (h : SecondFraction cs)
    (hrest : ∀ c ∈ rest.head?, c ≠ '.' ∧ c.isDigit = false) :
    secondFraction (cs ++ rest) = some rest := by
  cases h with
  | none =>
      cases rest with
      | nil => rfl
      | cons c rest =>
          rw [List.nil_append, secondFraction]
          exact fun _ heq => (hrest c rfl).1 (List.head_eq_of_cons_eq heq)
  | @some cs hne h =>
      rcases span_append h (fun c hc => (hrest c hc).2) with ⟨htake, hdrop⟩
      rw [List.cons_append, secondFraction, htake, hdrop, if_neg]
      rw [List.isEmpty_iff]
      exact hne

theorem time_append {cs rest : List Char} (h : IsTime cs)
    (hrest : ∀ c ∈ rest.head?, c ≠ '.' ∧ c.isDigit = false) : time (cs ++ rest) = some rest := by
  cases h with
  | mk hh hm hs hfrac =>
      unfold time
      simp only [List.append_assoc, List.cons_append, fixed_append hh, fixed_append hm,
        fixed_append hs, expect_cons, Option.bind_eq_bind, Option.bind_some]
      exact secondFraction_append hfrac hrest

theorem offset_append {cs rest : List Char} (h : IsOffset cs) (hrest : Delimited rest) :
    offset? (cs ++ rest) = some rest := by
  cases h with
  | none =>
      cases rest with
      | nil => rfl
      | cons c rest =>
          have hmarks : ∀ c ∈ delimiters, c ≠ 'Z' ∧ c ≠ 'z' ∧ c ≠ '+' ∧ c ≠ '-' :=
            forall_of_all (by decide)
          rcases hmarks c (hrest c rfl) with ⟨hZ, hz, hplus, hminus⟩
          rw [List.nil_append, offset?]
          · exact fun _ heq => hZ (List.head_eq_of_cons_eq heq)
          · exact fun _ heq => hz (List.head_eq_of_cons_eq heq)
          · exact fun _ heq => hplus (List.head_eq_of_cons_eq heq)
          · exact fun _ heq => hminus (List.head_eq_of_cons_eq heq)
  | universal hz => rcases hz with rfl | rfl <;> rfl
  | @distance sign h m hour minute hsign hh hm =>
      have hoffset : offset (h ++ ':' :: (m ++ rest)) = some rest := by
        unfold offset
        simp only [fixed_append hh, fixed_append hm, expect_cons, Option.bind_eq_bind,
          Option.bind_some]
        rfl
      simp only [List.cons_append, List.append_assoc]
      rcases hsign with rfl | rfl <;> exact hoffset

/-- What does not begin with a digit is no time. -/
theorem time_eq_none {rest : List Char} (h : ∀ c ∈ rest.head?, c.isDigit = false) :
    time rest = none := by
  have hfixed : fixed 2 0 23 rest = none := by
    unfold fixed
    simp only
    rw [if_neg]
    rintro ⟨hlength, hdigits, -⟩
    cases rest with
    | nil => cases hlength
    | cons c rest =>
        rw [List.take_succ_cons, List.all_cons, h c rfl, Bool.false_and] at hdigits
        cases hdigits
  unfold time
  rw [hfixed]
  rfl

theorem datetime_date {cs rest : List Char} (h : IsDate cs) (hrest : Follows rest) :
    datetime (cs ++ rest) = some rest := by
  unfold datetime
  simp only [date_append h, Option.bind_eq_bind, Option.bind_some]
  cases rest with
  | nil => rfl
  | cons c after =>
      by_cases hmark : c = 'T' ∨ c = 't' ∨ c = ' '
      · have hmarks : ∀ c ∈ delimiters, c ≠ 'T' ∧ c ≠ 't' := forall_of_all (by decide)
        rcases hmarks c (hrest.1 c rfl) with ⟨hT, ht⟩
        have hblank : c = ' ' := (hmark.resolve_left hT).resolve_left ht
        have hafter := hrest.2 after (by rw [hblank])
        have hnone := time_eq_none fun d hd => hafter.not_digit hd
        simp only [if_pos hmark, hnone]
        rfl
      · simp only [if_neg hmark]
        rfl

/-- A field of digits and a mark after it are recognised. -/
theorem startsWith_field {count low high n : Nat} {cs : List Char} (h : Field count low high cs n)
    (hbound : high ≤ Nat.pow 10 count) (mark : Char) (rest : List Char) :
    startsWith count mark (cs ++ mark :: rest) = true := by
  have hfield : Field count 0 (Nat.pow 10 count) cs n :=
    { h with low := Nat.zero_le n, high := Nat.le_trans h.high hbound }
  unfold startsWith
  rw [fixed_append hfield]
  exact beq_self_eq_true _

/-- A date or a time is read. -/
theorem numeric_moment {cs rest : List Char} (h : IsMoment cs) (hrest : Follows rest) :
    numeric (cs ++ rest) = some (.datetime, rest) := by
  have hdated : ∀ {cs : List Char}, IsDate cs → ∀ rest, startsWith 4 '-' (cs ++ rest) = true := by
    intro cs h rest
    cases h with
    | mk hy hm hd =>
        rw [List.append_assoc]
        exact startsWith_field hy (by decide) '-' _
  unfold numeric
  cases h with
  | date h => rw [if_pos (hdated h rest), datetime_date h hrest, Option.map_some]
  | @both date time offset mark hmark hdate htime hoffset =>
      have hrestTime : ∀ c ∈ (offset ++ rest).head?, c ≠ '.' ∧ c.isDigit = false := by
        intro c hc
        cases hoffset with
        | none => exact ⟨hrest.1.ne hc (by decide), hrest.1.not_digit hc⟩
        | universal hz =>
            rw [← Option.some.inj hc]
            rcases hz with rfl | rfl <;> decide
        | distance hsign _ _ =>
            rw [← Option.some.inj hc]
            rcases hsign with rfl | rfl <;> decide
      have hread : datetime (date ++ mark :: (time ++ (offset ++ rest))) = some rest := by
        unfold datetime
        simp only [date_append hdate, Option.bind_eq_bind, Option.bind_some, if_pos hmark,
          time_append htime hrestTime]
        exact offset_append hoffset hrest.1
      simp only [List.append_assoc, List.cons_append]
      rw [if_pos (hdated hdate _), hread, Option.map_some]
  | time h =>
      have htime := time_append h fun c hc =>
        ⟨hrest.1.ne hc (by decide), hrest.1.not_digit hc⟩
      cases h with
      | @mk h m s frac hour minute second hh hm hs hfrac =>
          rw [List.append_assoc, List.cons_append] at htime ⊢
          generalize m ++ ':' :: (s ++ frac) ++ rest = tail at htime ⊢
          -- The first digits end at a colon and not at a hyphen.
          have hdigits : (h ++ ':' :: tail).dropWhile Char.isDigit = ':' :: tail :=
            (span_append hh.digits fun c hc => by rw [← Option.some.inj hc]; decide).2
          have hdate : ¬ startsWith 4 '-' (h ++ ':' :: tail) = true := by
            intro hstarts
            have hhead := (of_startsWith (by decide) hstarts).2.2
            rw [hdigits] at hhead
            cases hhead
          rw [if_neg hdate, if_pos (startsWith_field hh (by decide) ':' tail), htime,
            Option.map_some]

/-- A value that is neither a string nor holds other values. -/
inductive IsAtom : List Char → Prop
  | boolean {name : List Char} (hname : name = "true".toList ∨ name = "false".toList) : IsAtom name
  | number {cs : List Char} (h : IsNumber cs) : IsAtom cs
  | moment {cs : List Char} (h : IsMoment cs) : IsAtom cs

end Toml

end KeywordTable
