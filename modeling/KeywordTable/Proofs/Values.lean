import KeywordTable.Proofs.Keys

/-!
# Reading Values

A value is read as what it is, at every depth that the reader goes to. The
argument follows the reader. What it does with the items of an array and the
pairs of a table depends on the reader of the next depth only through `Reads`,
so one round of arrays and tables is treated for any reader that reads what it
should, and the depth is then a plain induction.

`Reads` asks for two things. The value begins with a character that could not
end another one, so that a reader of items sees that there is one more; and it
is read up to whatever may follow it. `Follows` of the numerals is the condition
on what follows, and it holds before every gap that ends in a comma, a bracket
or a brace.

Simple values are told apart by their first characters. A number or a date has
none in common with a string, an array or a table, and `true` and `false` begin
with letters of their own.

## Main definitions

* `Node.Matches`: The node is what the value was read as.
* `Reads`: A reader reads the values that a relation gives.
* `StartsNumeral`: The characters that a number or a date can begin with.

## Theorems

* `follows_gap`: A gap may follow a value.
* `items_isItems`: The items of an array are read.
* `pair_isPair`: A pair is read.
* `inlineTable_isTable`: A table in braces is read.
* `scalar_isSimple`: A simple value is read.
* `reads_isValue`: Values of every depth are read.
-/

namespace KeywordTable

namespace Toml

/-! ### Values -/

/-- The node is what the value was read as. -/
structure Node.Matches (n : Node) (v : Value) : Prop where
  agrees : n.Agrees v.Has
  text : n.text? = v.text?

/-- The reader reads what the relation gives, up to anything that may follow a
    value. -/
structure Reads (reader : List Char → Option (Node × List Char))
    (item : List Char → Value → Prop) : Prop where
  starts : ∀ cs v, item cs v → ∃ c t, cs = c :: t ∧ c ∉ delimiters
  reads : ∀ cs v, item cs v → ∀ rest, Follows rest →
    ∃ n, reader (cs ++ rest) = some (n, rest) ∧ n.Matches v

/-- A node into which no path leads has only itself. -/
theorem agrees_leaf {n : Node} {layout : PathLayout} (hdistinct : n.Distinct)
    (hleaf : ∀ name q, n.at? (name :: q) = none)
    (hlayout : ∀ q c, layout q c ↔ q = [] ∧ c = n.content) : n.Agrees layout := by
  refine ⟨hdistinct, fun q c hat => (hlayout q c).mpr ?_, fun q c hc => Or.inl ?_⟩
  · cases q with
    | nil => exact ⟨rfl, (Option.some.inj hat).symm⟩
    | cons name q =>
        rw [hleaf] at hat
        cases hat
  · rcases (hlayout q c).mp hc with ⟨rfl, rfl⟩
    rfl

theorem matches_string (text : String) (span : Span) :
    (Node.scalar (.string text) span).Matches (.string text) := by
  refine ⟨agrees_leaf (.scalar _ _) (fun _ _ => rfl) fun q c => ⟨fun h => ?_, ?_⟩, rfl⟩
  · cases h
    exact ⟨rfl, rfl⟩
  · rintro ⟨rfl, rfl⟩
    exact .string text

theorem matches_other {x : Scalar} (hx : ∀ text, x ≠ .string text) (span : Span) :
    (Node.scalar x span).Matches .other := by
  have hcontent : (Node.scalar x span).content = .other ∧ (Node.scalar x span).text? = none := by
    cases x with
    | string text => exact absurd rfl (hx text)
    | integer _ => exact ⟨rfl, rfl⟩
    | float _ => exact ⟨rfl, rfl⟩
    | boolean _ => exact ⟨rfl, rfl⟩
    | datetime => exact ⟨rfl, rfl⟩
  refine ⟨agrees_leaf (.scalar _ _) (fun _ _ => rfl) fun q c => ⟨fun h => ?_, ?_⟩, hcontent.2⟩
  · cases h
    exact ⟨rfl, hcontent.1.symm⟩
  · rintro ⟨rfl, rfl⟩
    rw [hcontent.1]
    exact .other

theorem matches_array {ns : List Node} {vs : List Value} (h : List.Forall₂ Node.Matches ns vs)
    (span : Span) : (Node.array ns span).Matches (.array vs) := by
  have htexts : ns.map Node.text? = vs.map Value.text? := by
    induction h with
    | nil => rfl
    | cons hn _ ih => rw [List.map_cons, List.map_cons, hn.text, ih]
  refine ⟨agrees_leaf (.array _ _) (fun _ _ => rfl) fun q c => ⟨fun h => ?_, ?_⟩, rfl⟩
  · cases h
    rw [Node.content, htexts]
    exact ⟨rfl, rfl⟩
  · rintro ⟨rfl, rfl⟩
    rw [Node.content, htexts]
    exact .array vs

/-! ### What follows a value -/

theorem delimited_cons {c : Char} (h : c ∈ delimiters) (rest : List Char) :
    Delimited (c :: rest) := by
  intro d hd
  rw [← Option.some.inj hd]
  exact h

theorem delimited_gap {gap : List Char} (h : Gap gap) {c : Char} (hc : c ∈ delimiters)
    (rest : List Char) : Delimited (gap ++ c :: rest) := by
  cases h with
  | nil => exact delimited_cons hc rest
  | blank hd _ => rcases hd with rfl | rfl <;> exact delimited_cons (by decide) _
  | newline hending _ => rcases hending with rfl | rfl <;> exact delimited_cons (by decide) _
  | comment _ _ _ => exact delimited_cons (by decide) _

/-- A value may be followed by a gap and then by a comma or a bracket. -/
theorem follows_gap {gap : List Char} (h : Gap gap) {c : Char} (hc : c ∈ delimiters)
    (hblank : c ≠ ' ') (rest : List Char) : Follows (gap ++ c :: rest) := by
  refine ⟨delimited_gap h hc rest, fun after hafter => ?_⟩
  cases h with
  | nil => exact absurd (List.head_eq_of_cons_eq hafter) hblank
  | blank _ h =>
      rw [← List.tail_eq_of_cons_eq hafter]
      exact delimited_gap h hc rest
  | newline hending _ =>
      rcases hending with rfl | rfl <;> exact absurd (List.head_eq_of_cons_eq hafter) (by decide)
  | comment _ _ _ => exact absurd (List.head_eq_of_cons_eq hafter) (by decide)

theorem gap_of_blank {cs : List Char} (h : Blank cs) : Gap cs := by
  induction cs with
  | nil => exact .nil
  | cons c cs ih =>
      rcases List.forall_mem_cons.mp h with ⟨hc, hcs⟩
      exact .blank hc (ih hcs)

/-- What does not end a value can be told from a gap. -/
theorem not_mem_of_not_delimiter {c : Char} (h : c ∉ delimiters) :
    c ∉ [' ', '\t', '\n', '\r', '#'] ∧ c ≠ ',' ∧ c ≠ ']' ∧ c ≠ '\x7d' := by
  have hsub : ∀ d ∈ [' ', '\t', '\n', '\r', '#'], d ∈ delimiters :=
    forall_of_all (by decide)
  refine ⟨fun hc => h (hsub c hc), ?_, ?_, ?_⟩
  · rintro rfl; exact h (by decide)
  · rintro rfl; exact h (by decide)
  · rintro rfl; exact h (by decide)

/-! ### Arrays -/

section

variable {reader : List Char → Option (Node × List Char)} {fuel : Nat} {cs t after rest : List Char}
  {c : Char} {n : Node}

/-- An item with the closing bracket after it is the last. -/
theorem items_last (hskip : skipLines false cs = some (c :: t)) (hc : c ≠ ']')
    (hn : reader (c :: t) = some (n, after)) (hafter : skipLines false after = some (']' :: rest)) :
    items reader (fuel + 1) cs = some ([n], rest) := by
  rw [items, hskip]
  simp only [Option.bind_eq_bind, Option.bind_some]
  split
  · next heq => exact absurd (List.head_eq_of_cons_eq heq) hc
  · rw [hn]
    simp only [Option.bind_some, hafter]
    rfl

/-- An item with a comma after it is followed by the items after that. -/
theorem items_cons (hskip : skipLines false cs = some (c :: t)) (hc : c ≠ ']')
    (hn : reader (c :: t) = some (n, after)) {more : List Char}
    (hafter : skipLines false after = some (',' :: more)) {ns : List Node}
    (hmore : items reader fuel more = some (ns, rest)) :
    items reader (fuel + 1) cs = some (n :: ns, rest) := by
  rw [items, hskip]
  simp only [Option.bind_eq_bind, Option.bind_some]
  split
  · next heq => exact absurd (List.head_eq_of_cons_eq heq) hc
  · rw [hn]
    simp only [Option.bind_some, hafter, hmore]
    rfl

end

/-- The items of an array are read one after the other. -/
theorem items_isItems {reader : List Char → Option (Node × List Char)}
    {item : List Char → Value → Prop} (hreads : Reads reader item) {cs : List Char}
    {vs : List Value} (h : IsItems item cs vs) {fuel : Nat} (hfuel : vs.length < fuel)
    (rest : List Char) :
    ∃ ns, items reader fuel (cs ++ rest) = some (ns, rest) ∧ List.Forall₂ Node.Matches ns vs := by
  induction h generalizing fuel with
  | @nil gap hgap =>
      cases fuel with
      | zero => cases hfuel
      | succ fuel =>
          refine ⟨[], ?_, .nil⟩
          have hskip : skipLines false (gap ++ ']' :: rest) = some (']' :: rest) :=
            skipLines_gap hgap (by decide) rest
          rw [List.append_assoc, List.singleton_append, items, hskip]
          rfl
  | @last before cs after v hbefore hitem hafter =>
      cases fuel with
      | zero => cases hfuel
      | succ fuel =>
          -- The item is read up to the gap, and the gap up to the bracket.
          have hfollows : Follows (after ++ ']' :: rest) :=
            follows_gap hafter (by decide) (by decide) rest
          rcases hreads.reads cs v hitem _ hfollows with ⟨n, hn, hmatches⟩
          rcases hreads.starts cs v hitem with ⟨c, t, rfl, hc⟩
          rcases not_mem_of_not_delimiter hc with ⟨hstart, -, hclose, -⟩
          refine ⟨[n], ?_, .cons hmatches .nil⟩
          simp only [List.append_assoc, List.cons_append, List.nil_append] at hn ⊢
          exact items_last (skipLines_gap hbefore hstart _) hclose hn
            (skipLines_gap hafter (by decide) rest)
  | @cons before cs after tail v vs hbefore hitem hafter _ ih =>
      cases fuel with
      | zero => cases hfuel
      | succ fuel =>
          have hfollows : Follows (after ++ ',' :: (tail ++ rest)) :=
            follows_gap hafter (by decide) (by decide) (tail ++ rest)
          rcases hreads.reads cs v hitem _ hfollows with ⟨n, hn, hmatches⟩
          rcases hreads.starts cs v hitem with ⟨c, t, rfl, hc⟩
          rcases not_mem_of_not_delimiter hc with ⟨hstart, -, hclose, -⟩
          rcases ih (Nat.lt_of_succ_lt_succ hfuel) with ⟨ns, hns, hall⟩
          refine ⟨n :: ns, ?_, .cons hmatches hall⟩
          simp only [List.append_assoc, List.cons_append] at hn ⊢
          exact items_cons (skipLines_gap hbefore hstart _) hclose hn
            (skipLines_gap hafter (by decide) (tail ++ rest)) hns

/-- There are fewer items than characters. -/
theorem length_isItems {item : List Char → Value → Prop} {cs : List Char} {vs : List Value}
    (h : IsItems item cs vs) : vs.length ≤ cs.length := by
  induction h with
  | nil _ => exact Nat.zero_le _
  | last _ _ _ =>
      simp only [List.length_append, List.length_cons, List.length_nil]
      omega
  | cons _ _ _ _ ih =>
      simp only [List.length_append, List.length_cons]
      omega

/-! ### Tables in braces -/

/-- A key, the equals sign and a value are read as a pair. -/
theorem pair_isPair {reader : List Char → Option (Node × List Char)}
    {item : List Char → Value → Prop} (hreads : Reads reader item) {cs : List Char}
    {w : List String × Value} (h : IsPair maxDepth item cs w) {rest : List Char}
    (hrest : Follows rest) : ∃ p, pair reader (cs ++ rest) = some (p, rest) ∧ p.Agrees w := by
  cases h with
  | @mk key blanks cs path v hpath hlimit hblanks hitem =>
      have hends : PathEnds ('=' :: (blanks ++ (cs ++ rest))) := ⟨'=', _, rfl, Or.inl rfl⟩
      rcases keyPath_isPath hpath hlimit hends with ⟨keys, hkeys, hnames⟩
      rcases hreads.reads cs v hitem rest hrest with ⟨n, hn, hmatches⟩
      have hunblank : Unblank (cs ++ rest) := by
        rcases hreads.starts cs v hitem with ⟨c, t, rfl, hc⟩
        refine unblank_cons ⟨?_, ?_⟩ _
        · rintro rfl; exact hc (by decide)
        · rintro rfl; exact hc (by decide)
      refine ⟨⟨keys, n⟩, ?_, hnames, hmatches.agrees⟩
      unfold pair
      simp only [List.append_assoc, List.cons_append, hkeys, expect_cons, Option.bind_eq_bind,
        Option.bind_some, skipSpace_append hblanks hunblank, hn]
      rfl

/-- The pairs of a table in braces are read one after the other. -/
theorem pairs_isPairs {reader : List Char → Option (Node × List Char)}
    {item : List Char → Value → Prop} (hreads : Reads reader item) {cs : List Char}
    {ws : List (List String × Value)} (h : IsPairs maxDepth item cs ws) {fuel : Nat}
    (hfuel : ws.length ≤ fuel) (rest : List Char) :
    ∃ ps, pairs reader fuel (cs ++ rest) = some (ps, rest) ∧ List.Forall₂ Pair.Agrees ps ws := by
  induction h generalizing fuel with
  | @last cs after w hpair hafter =>
      cases fuel with
      | zero => cases hfuel
      | succ fuel =>
          -- The brace ends the last value, and with it the table.
          have hfollows : Follows (after ++ '\x7d' :: rest) :=
            follows_gap (gap_of_blank hafter) (by decide) (by decide) rest
          rcases pair_isPair hreads hpair hfollows with ⟨p, hp, hagrees⟩
          have hskip : skipSpace (after ++ '\x7d' :: rest) = '\x7d' :: rest :=
            skipSpace_append hafter (unblank_cons (by decide) rest)
          refine ⟨[p], ?_, .cons hagrees .nil⟩
          simp only [List.append_assoc, List.cons_append, List.nil_append, pairs, hp, hskip,
            Option.bind_eq_bind, Option.bind_some]
          rfl
  | @cons cs after tail w ws hpair hafter _ ih =>
      cases fuel with
      | zero => cases hfuel
      | succ fuel =>
          -- The comma ends the value, and the pairs after it are read with less fuel.
          have hfollows : Follows (after ++ ',' :: (tail ++ rest)) :=
            follows_gap (gap_of_blank hafter) (by decide) (by decide) (tail ++ rest)
          rcases pair_isPair hreads hpair hfollows with ⟨p, hp, hagrees⟩
          have hskip : skipSpace (after ++ ',' :: (tail ++ rest)) = ',' :: (tail ++ rest) :=
            skipSpace_append hafter (unblank_cons (by decide) _)
          rcases ih (Nat.le_of_succ_le_succ hfuel) with ⟨ps, hps, hall⟩
          refine ⟨p :: ps, ?_, .cons hagrees hall⟩
          simp only [List.append_assoc, List.cons_append, pairs, hp, hskip, hps,
            Option.bind_eq_bind, Option.bind_some]
          rfl

section

variable {limit : Nat} {item : List Char → Value → Prop}

theorem indented_isPair {cs : List Char} {w : List String × Value} (h : IsPair limit item cs w) :
    Indented (IsPair limit item · w) cs := by
  cases h with
  | mk hpath hlimit hblanks hitem =>
      exact (indented_isPath hpath).append fun _ h => .mk h hlimit hblanks hitem

theorem indented_isPairs {cs : List Char} {ws : List (List String × Value)}
    (h : IsPairs limit item cs ws) : Indented (IsPairs limit item · ws) cs := by
  cases h with
  | last hpair hafter => exact (indented_isPair hpair).append fun _ h => .last h hafter
  | cons hpair hafter h' => exact (indented_isPair hpair).append fun _ h => .cons h hafter h'

/-- There are fewer pairs than characters. -/
theorem length_isPairs {cs : List Char} {ws : List (List String × Value)}
    (h : IsPairs limit item cs ws) : ws.length ≤ cs.length := by
  induction h with
  | last _ _ =>
      simp only [List.length_append, List.length_cons, List.length_nil]
      omega
  | cons _ _ _ ih =>
      simp only [List.length_append, List.length_cons]
      omega

end

/-- The entries that pairs make have what the table has. -/
theorem agrees_ofPairs {ps : List Pair} {ws : List (List String × Value)}
    (h : List.Forall₂ Pair.Agrees ps ws) {es : Entries} (hes : Entries.ofPairs? ps = some es) :
    es.Agrees (Value.table ws).Has :=
  (adds_pairs h [] es _ Entries.agrees_nil hes).congr fun q c => (has_table_iff ws q c).symm

/-- A table in braces is read as the entries that its pairs make. -/
theorem inlineTable_isTable {reader : List Char → Option (Node × List Char)}
    {item : List Char → Value → Prop} (hreads : Reads reader item) {cs : List Char}
    {ws : List (List String × Value)} (h : IsTable maxDepth item cs ws) (rest : List Char) :
    ∃ es, inlineTable reader (cs ++ rest) = some (es, rest) ∧ es.Agrees (Value.table ws).Has := by
  cases h with
  | @empty blanks hblanks =>
      refine ⟨[], ?_, agrees_ofPairs .nil rfl⟩
      have hskip : skipSpace (blanks ++ '\x7d' :: rest) = '\x7d' :: rest :=
        skipSpace_append hblanks (unblank_cons (by decide) rest)
      unfold inlineTable
      rw [List.append_assoc, List.singleton_append, hskip]
      rfl
  | pairs h hapart =>
      rcases indented_isPairs h with ⟨blanks, c, t, rfl, hblanks, hc, h⟩
      have hfuel : ws.length ≤ (c :: (t ++ rest)).length + 1 := by
        have hlength := length_isPairs h
        simp only [List.length_cons, List.length_append] at hlength ⊢
        omega
      rcases pairs_isPairs hreads h hfuel rest with ⟨ps, hps, hagrees⟩
      rcases Entries.exists_ofPairs (pairwise_names hagrees hapart) with ⟨es, hes⟩
      refine ⟨es, ?_, agrees_ofPairs hagrees hes⟩
      rw [List.cons_append] at hps
      unfold inlineTable
      rw [List.append_assoc, List.cons_append, skipSpace_startsKey hblanks hc]
      -- The table is not empty, since a key does not begin with a brace.
      split
      · next heq =>
          rw [List.head_eq_of_cons_eq heq] at hc
          exact absurd hc (not_startsKey '\x7d' (by decide))
      · simp only [hps, hes, Option.bind_eq_bind, Option.bind_some]
        rfl

/-! ### Simple values -/

/-- A number or a date can begin with the character. -/
def StartsNumeral (c : Char) : Prop :=
  c.isDigit = true ∨ c ∈ ['+', '-', 'i', 'n']

theorem head_field {count low high n : Nat} {cs : List Char} (h : Field (count + 1) low high cs n)
    (rest : List Char) : ∃ c t, cs ++ rest = c :: t ∧ StartsNumeral c := by
  cases cs with
  | nil => exact absurd h.length (Nat.succ_ne_zero count).symm
  | cons c cs => exact ⟨c, cs ++ rest, rfl, Or.inl (h.digits c List.mem_cons_self)⟩

theorem head_isMoment {cs : List Char} (h : IsMoment cs) :
    ∃ c t, cs = c :: t ∧ StartsNumeral c := by
  have hdate : ∀ {date}, IsDate date → ∀ rest, ∃ c t, date ++ rest = c :: t ∧ StartsNumeral c := by
    rintro _ ⟨hy, -, -⟩ rest
    rw [List.append_assoc]
    exact head_field hy _
  cases h with
  | date h =>
      have hhead := hdate h []
      rwa [List.append_nil] at hhead
  | time h =>
      rcases h with ⟨hh, -, -, -⟩
      exact head_field hh _
  | both _ h _ _ => exact hdate h _

theorem head_isNumber {cs : List Char} (h : IsNumber cs) :
    ∃ c t, cs = c :: t ∧ StartsNumeral c := by
  have hsigned : ∀ {sign negative}, Sign sign negative → ∀ {c t}, StartsNumeral c →
      ∃ d u, sign ++ c :: t = d :: u ∧ StartsNumeral d := by
    rintro _ _ (_ | _ | _) c t hc
    · exact ⟨c, t, rfl, hc⟩
    · exact ⟨'+', c :: t, rfl, Or.inr (by decide)⟩
    · exact ⟨'-', c :: t, rfl, Or.inr (by decide)⟩
  cases h with
  | decimal hsign hwhole _ _ _ _ =>
      rcases head_digits hwhole with ⟨d, cs', -, rfl, -, hd⟩
      exact hsigned hsign (Or.inl hd)
  | special hsign hname =>
      rcases hname with rfl | rfl
      · exact hsigned hsign (Or.inr (by decide))
      · exact hsigned hsign (Or.inr (by decide))
  | radix _ _ _ => exact ⟨'0', _, rfl, Or.inl (by decide)⟩

theorem not_startsNumeral :
    ∀ c ∈ '"' :: '\'' :: 't' :: 'f' :: '[' :: '\x7b' :: delimiters, ¬ StartsNumeral c := by
  unfold StartsNumeral
  exact forall_of_all (by decide)

/-- What can begin a number is read as one. -/
theorem scalar_startsNumeral {c : Char} (hc : StartsNumeral c) (t : List Char) :
    scalar (c :: t) = numeric (c :: t) := by
  have hne : ∀ d ∈ ['"', '\'', 't', 'f'], c ≠ d := by
    rintro d hd rfl
    exact not_startsNumeral c (List.mem_append_left ('[' :: '\x7b' :: delimiters) hd) hc
  unfold scalar
  split
  · next heq => exact absurd (List.head_eq_of_cons_eq heq) (hne _ (by decide))
  · next heq => exact absurd (List.head_eq_of_cons_eq heq) (hne _ (by decide))
  · next heq => exact absurd (List.head_eq_of_cons_eq heq) (hne _ (by decide))
  · next heq => exact absurd (List.head_eq_of_cons_eq heq) (hne _ (by decide))
  · rfl

theorem scalar_isString {cs text : List Char} (h : IsString cs text) {rest : List Char}
    (hrest : Delimited rest) : scalar (cs ++ rest) = some (.string (.ofList text), rest) := by
  have hquote : ∀ q ∈ ['"', '\''], rest.head? ≠ some q := by
    have hnot : ∀ q ∈ ['"', '\''], q ∉ delimiters := forall_of_all (by decide)
    exact fun q hq hhead => hnot q hq (hrest q hhead)
  have hread : string (cs ++ rest) = some (text, rest) :=
    string_isString h (hquote '"' (by decide)) (hquote '\'' (by decide))
  have hstep : scalar (cs ++ rest) =
      (string (cs ++ rest)).map fun r => (.string (.ofList r.1), r.2) := by
    cases h with
    | basic _ => rfl
    | literal _ => rfl
    | longBasic _ _ => rfl
    | longLiteral _ _ => rfl
  rw [hstep, hread]
  rfl

/-- A simple value is read as what it is. -/
theorem scalar_isSimple {cs : List Char} {v : Value} (h : IsSimple cs v) {rest : List Char}
    (hrest : Follows rest) :
    ∃ x, scalar (cs ++ rest) = some (x, rest) ∧ ∀ span, (Node.scalar x span).Matches v := by
  cases h with
  | string h => exact ⟨_, scalar_isString h hrest.1, matches_string _⟩
  | atom h =>
      cases h with
      | boolean hname =>
          rcases hname with rfl | rfl
          · exact ⟨.boolean true, rfl, matches_other fun _ h => nomatch h⟩
          · exact ⟨.boolean false, rfl, matches_other fun _ h => nomatch h⟩
      | number h =>
          rcases numeric_number h hrest.1 with ⟨x, hx, hother⟩
          rcases head_isNumber h with ⟨c, t, rfl, hc⟩
          exact ⟨x, (scalar_startsNumeral hc _).trans hx, matches_other hother⟩
      | moment h =>
          have hx := numeric_moment h hrest
          rcases head_isMoment h with ⟨c, t, rfl, hc⟩
          exact ⟨.datetime, (scalar_startsNumeral hc _).trans hx,
            matches_other fun _ h => nomatch h⟩

/-- A simple value begins with what opens no array and no table, and ends
    none. -/
theorem head_isSimple {cs : List Char} {v : Value} (h : IsSimple cs v) :
    ∃ c t, cs = c :: t ∧ c ∉ '[' :: '\x7b' :: delimiters := by
  have hnumeral : ∀ {c}, StartsNumeral c → c ∉ '[' :: '\x7b' :: delimiters := fun hc hmem =>
    not_startsNumeral _ (List.mem_append_right ['"', '\'', 't', 'f'] hmem) hc
  cases h with
  | string h =>
      cases h with
      | basic _ => exact ⟨'"', _, rfl, by decide⟩
      | literal _ => exact ⟨'\'', _, rfl, by decide⟩
      | longBasic _ _ => exact ⟨'"', _, rfl, by decide⟩
      | longLiteral _ _ => exact ⟨'\'', _, rfl, by decide⟩
  | atom h =>
      cases h with
      | boolean hname =>
          rcases hname with rfl | rfl
          · exact ⟨'t', _, rfl, by decide⟩
          · exact ⟨'f', _, rfl, by decide⟩
      | number h =>
          rcases head_isNumber h with ⟨c, t, rfl, hc⟩
          exact ⟨c, t, rfl, hnumeral hc⟩
      | moment h =>
          rcases head_isMoment h with ⟨c, t, rfl, hc⟩
          exact ⟨c, t, rfl, hnumeral hc⟩

/-! ### Values of any depth -/

/-- What opens neither an array nor a table is read as a simple value. -/
theorem value_scalar {c : Char} {t rest : List Char} {x : Scalar}
    (hc : c ∉ '[' :: '\x7b' :: delimiters) (h : scalar (c :: t) = some (x, rest)) (depth : Nat) :
    value depth (c :: t) = some (.scalar x { start := c :: t, stop := rest }, rest) := by
  have hbracket : c ≠ '[' := by
    rintro rfl
    exact hc (by decide)
  have hbrace : c ≠ '\x7b' := by
    rintro rfl
    exact hc (by decide)
  unfold value
  split
  · next heq => exact absurd (List.head_eq_of_cons_eq heq) hbracket
  · next heq => exact absurd (List.head_eq_of_cons_eq heq) hbrace
  · rw [h]
    rfl

theorem reads_isSimple (depth : Nat) : Reads (value depth) IsSimple where
  starts cs v h := by
    rcases head_isSimple h with ⟨c, t, rfl, hc⟩
    exact ⟨c, t, rfl, fun hmem => hc (List.mem_append_right ['[', '\x7b'] hmem)⟩
  reads cs v h rest hrest := by
    rcases scalar_isSimple h hrest with ⟨x, hx, hmatches⟩
    rcases head_isSimple h with ⟨c, t, rfl, hc⟩
    exact ⟨_, value_scalar hc hx depth, hmatches _⟩

/-- Values of each depth are read. Those of the next are simple, or arrays and
    tables of them. -/
theorem reads_isValue (depth : Nat) : Reads (value depth) (IsValue maxDepth depth) := by
  induction depth with
  | zero => exact reads_isSimple 0
  | succ depth ih =>
      constructor
      · intro cs v h
        cases h with
        | simple h => exact (reads_isSimple 0).starts cs v h
        | array _ => exact ⟨'[', _, rfl, by decide⟩
        | table _ => exact ⟨'\x7b', _, rfl, by decide⟩
      · intro cs v h rest hrest
        cases h with
        | simple h => exact (reads_isSimple (depth + 1)).reads cs v h rest hrest
        | @array cs vs h =>
            -- Each item has a character at least, so the count is enough.
            have hfuel : vs.length < (cs ++ rest).length + 1 := by
              have hlength := length_isItems h
              rw [List.length_append]
              omega
            rcases items_isItems ih h hfuel rest with ⟨ns, hns, hmatches⟩
            refine ⟨.array ns { start := '[' :: (cs ++ rest), stop := rest }, ?_,
              matches_array hmatches _⟩
            rw [List.cons_append, value, hns]
            rfl
        | @table cs ws h =>
            rcases inlineTable_isTable ih h rest with ⟨es, hes, hagrees⟩
            refine ⟨.table .inline es { start := '\x7b' :: (cs ++ rest), stop := rest }, ?_,
              (agrees_table_iff ..).mpr hagrees, rfl⟩
            rw [List.cons_append, value, hes]
            rfl

end Toml

end KeywordTable
