import KeywordTable.Proofs.Entries
import KeywordTable.Proofs.Words

/-!
# Keys in Normal Form

A keyword is looked up by its key, which is the word in lower case. The key has
to be a word of its own kind, so that it can be written where a word can, and
lowering it once more has to leave it as it is. For ASCII words it also has to
be what one expects, each letter lowered for itself.

Both rest on one property of the data. What a letter is lowered to is settled:
it is in no run itself, and is neither of the two letters that the runs leave to
a rule of their own. `CaseRun.misses` says when the letters that one run is
lowered to are none of another run, by the ends of the two runs, or by parity
where capital and small letters take turns. It is read off all pairs of runs at
once. A text of settled characters is lowered to itself, whatever stands around
each of them, so the rule for the sigma is met only the first time.

Nor is any letter lowered to a blank. The ends of a key come from the ends of
its word, so the key is trimmed because the word is.

## Main definitions

* `CaseRun.misses`: Letters of one run are not lowered to letters of another.
* `Text.IsSettled`: The character is its own lower case, wherever it stands.
* `Text.MeetsCased`: Read outward, the next letter has case.
* `Word.IsAscii`: The word has only ASCII characters.
* `SameLetter`: The characters are the same up to ASCII case.

## Theorems

* `CaseRun.not_contains_apply`: A run that misses another is lowered outside of it.
* `Text.lowerChar_cases`: What a character is lowered to away from its context.
* `Text.mem_lowerAt_cases`: What can be written for a character.
* `Text.lower_eq_flatten`: A text is lowered place by place.
* `Text.settled_of_mem_lower`: All that is written in lower case is settled.
* `Text.lowerFrom_eq_map`: Characters that are lowered each for itself.
* `Text.lower_lower`: Lowering a second time changes nothing.
* `Text.lowerAt_eq`: Only a sigma looks at what stands around it.
* `Word.isWord_lower`: The lower case of a word is a word.
* `Text.lower_ascii`: ASCII characters are lowered each for itself.
* `toLower_eq_iff`: When two characters have one ASCII lower case.
* `Word.key_is_normal`: The key of a word is a word in normal form.
-/

namespace KeywordTable

namespace CaseRun

/-- No letter of the first run is lowered to a letter of the second. All that it
    is lowered to comes before or after the second run, or they take turns. There
    are many pairs of runs, so the tests are those that compute on numerals. -/
def misses (r t : CaseRun) : Bool :=
  Nat.ble (r.apply r.last + 1) t.first || Nat.ble (t.last + 1) r.lower ||
    ((Nat.beq r.first r.last || Nat.beq r.step 2) && Nat.beq t.step 2 &&
      Nat.beq ((r.lower + t.first) % 2) 1)

theorem misses_iff (r t : CaseRun) :
    r.misses t = true ↔ r.apply r.last < t.first ∨ t.last < r.lower ∨
      ((r.first = r.last ∨ r.step = 2) ∧ t.step = 2 ∧ (r.lower + t.first) % 2 = 1) := by
  simp only [misses, Bool.or_eq_true, Bool.and_eq_true, Nat.ble_eq, Nat.beq_eq, Nat.succ_le_iff,
    or_assoc, and_assoc]

theorem contains_iff (r : CaseRun) (n : Nat) :
    r.contains n = true ↔ r.first ≤ n ∧ n ≤ r.last ∧ (n - r.first) % r.step = 0 := by
  simp only [contains, Bool.and_eq_true, decide_eq_true_eq, beq_iff_eq, and_assoc]

/-- A run that misses another is lowered outside of it. -/
theorem not_contains_apply {r t : CaseRun} {n : Nat} (h : r.misses t = true)
    (hn : r.contains n = true) : ¬ t.contains (r.apply n) = true := by
  obtain ⟨hfirst, hlast, hstep⟩ := (r.contains_iff n).mp hn
  rw [contains_iff]
  rintro ⟨hfirst', hlast', hstep'⟩
  rw [misses_iff] at h
  unfold apply at h hfirst' hlast' hstep'
  -- The code point in question is between the ends of what the first run is
  -- lowered to, which leaves only the runs that take turns.
  rcases h with hbefore | hafter | ⟨hturn | hturn, hturn', hodd⟩
  · omega
  · omega
  · -- A run of one letter is lowered to one letter, of the wrong parity.
    rw [hturn'] at hstep'
    omega
  · -- So is every letter of a run with every second letter.
    rw [hturn] at hstep
    rw [hturn'] at hstep'
    omega

/-- What the runs are lowered to is in none of them. -/
theorem misses_table : ∀ r ∈ table, table.all r.misses = true := by
  decide +kernel

/-- What the runs are lowered to is no blank, and neither of the letters with a
    rule of their own. -/
theorem table_apart : ∀ r ∈ table, ∀ range ∈ ⟨0x130, 0x130⟩ :: ⟨0x3A3, 0x3A3⟩ :: Text.blanks,
    r.apply r.last < range.first ∨ range.last < r.lower := by
  decide +kernel

/-- A letter of a run is lowered to a character outside of such a range. -/
theorem apply_outside {r : CaseRun} {range : CodeRange} {n : Nat} (hn : r.contains n = true)
    (h : r.apply r.last < range.first ∨ range.last < r.lower) :
    ¬ (range.first ≤ r.apply n ∧ r.apply n ≤ range.last) := by
  obtain ⟨hfirst, hlast, -⟩ := (r.contains_iff n).mp hn
  unfold apply at h ⊢
  omega

/-- Only the first run has ASCII letters. -/
theorem first_of_mem_tail : ∀ r ∈ table.tail, 128 ≤ r.first := by
  decide +kernel

end CaseRun

namespace Text

/-- What a character is lowered to away from its context. The capital I with a
    dot becomes two characters, a letter of a run becomes one, and any other
    character stays. -/
theorem lowerChar_cases (c : Char) :
    lowerChar c = ['i', '\u0307'] ∨
    (∃ r ∈ CaseRun.table, ∃ d : Char,
      r.contains c.toNat = true ∧ d.toNat = r.apply c.toNat ∧ lowerChar c = [d]) ∨
    lowerChar c = [c] := by
  by_cases hdot : c = '\u0130'
  · exact Or.inl (by rw [lowerChar, if_pos hdot])
  · cases hfind : CaseRun.table.find? (·.contains c.toNat) with
    | none => exact Or.inr (Or.inr (by rw [lowerChar, if_neg hdot, hfind]))
    | some r =>
        have hr := List.mem_of_find?_eq_some hfind
        have hn : r.contains c.toNat = true := (List.find?_eq_some_iff_append.mp hfind).1
        have hchar := (toNat_apply r c.toNat hr hn).1
        exact Or.inr (Or.inl ⟨r, hr, _, hn, hchar, by rw [lowerChar, if_neg hdot, hfind]⟩)

theorem lowerAt_of_ne {c : Char} (hc : c ≠ '\u03A3') (before after : List Char) :
    lowerAt before c after = lowerChar c :=
  if_neg hc

theorem lowerAt_ne_nil (before : List Char) (c : Char) (after : List Char) :
    lowerAt before c after ≠ [] := by
  by_cases hc : c = '\u03A3'
  · rw [lowerAt, if_pos hc]
    split <;> exact List.cons_ne_nil _ _
  · rw [lowerAt_of_ne hc]
    rcases lowerChar_cases c with h | ⟨r, -, d, -, -, h⟩ | h
    · exact h ▸ List.cons_ne_nil _ _
    · exact h ▸ List.cons_ne_nil _ _
    · exact h ▸ List.cons_ne_nil _ _

/-- The character is its own lower case, wherever it stands. -/
def IsSettled (c : Char) : Prop :=
  ∀ before after, lowerAt before c after = [c]

theorem settled_of_lowerChar {c : Char} (hc : c ≠ '\u03A3') (h : lowerChar c = [c]) :
    IsSettled c :=
  fun before after => (lowerAt_of_ne hc before after).trans h

/-- A letter of a run is lowered to a settled one. -/
theorem settled_of_run {r : CaseRun} {n : Nat} {d : Char} (hr : r ∈ CaseRun.table)
    (hn : r.contains n = true) (hd : d.toNat = r.apply n) : IsSettled d := by
  have hdot : d ≠ '\u0130' := by
    rintro rfl
    refine CaseRun.apply_outside hn (CaseRun.table_apart r hr _ List.mem_cons_self) ?_
    rw [← hd]
    decide
  have hsigma : d ≠ '\u03A3' := by
    rintro rfl
    refine CaseRun.apply_outside hn
      (CaseRun.table_apart r hr _ (List.mem_cons_of_mem _ List.mem_cons_self)) ?_
    rw [← hd]
    decide
  -- The letter is in no run at all, so it is not looked up a second time.
  have hnone : CaseRun.table.find? (·.contains d.toNat) = none := by
    rw [List.find?_eq_none]
    intro t ht
    rw [hd]
    exact CaseRun.not_contains_apply (List.all_eq_true.mp (CaseRun.misses_table r hr) t ht) hn
  exact settled_of_lowerChar hsigma (by rw [lowerChar, if_neg hdot, hnone])

/-- What can be written for a character: one of the characters that the rules
    apart from the runs write, a letter that a run is lowered to, or the
    character itself. -/
theorem mem_lowerAt_cases {before after : List Char} {c d : Char}
    (h : d ∈ lowerAt before c after) :
    d ∈ ['i', '\u0307', '\u03C2', '\u03C3'] ∨
    (∃ r ∈ CaseRun.table, ∃ n, r.contains n = true ∧ d.toNat = r.apply n) ∨
    (d = c ∧ IsSettled c) := by
  by_cases hc : c = '\u03A3'
  · left
    rw [lowerAt, if_pos hc] at h
    split at h
    · rw [List.mem_singleton.mp h]
      decide
    · rw [List.mem_singleton.mp h]
      decide
  · rw [lowerAt_of_ne hc] at h
    rcases lowerChar_cases c with heq | ⟨r, hr, e, hn, he, heq⟩ | heq
    · left
      rw [heq] at h
      exact List.mem_append_left ['\u03C2', '\u03C3'] h
    · rw [heq] at h
      exact Or.inr (Or.inl ⟨r, hr, c.toNat, hn, List.mem_singleton.mp h ▸ he⟩)
    · rw [heq] at h
      exact Or.inr (Or.inr ⟨List.mem_singleton.mp h, settled_of_lowerChar hc heq⟩)

/-- All that is written for a character is settled. -/
theorem settled_of_mem_lowerAt {before after : List Char} {c d : Char}
    (h : d ∈ lowerAt before c after) : IsSettled d := by
  rcases mem_lowerAt_cases h with hrule | ⟨r, hr, n, hn, hd⟩ | ⟨rfl, hd⟩
  · simp only [List.mem_cons, List.not_mem_nil, or_false] at hrule
    rcases hrule with rfl | rfl | rfl | rfl <;>
      exact settled_of_lowerChar (by decide) (by decide +kernel)
  · exact settled_of_run hr hn hd
  · exact hd

/-- No character that is not blank is lowered to a blank. -/
theorem not_blank_of_mem_lowerAt {before after : List Char} {c d : Char}
    (hc : isBlank c = false) (h : d ∈ lowerAt before c after) : isBlank d = false := by
  rcases mem_lowerAt_cases h with hrule | ⟨r, hr, n, hn, hd⟩ | ⟨rfl, -⟩
  · simp only [List.mem_cons, List.not_mem_nil, or_false] at hrule
    rcases hrule with rfl | rfl | rfl | rfl <;> decide
  · rw [isBlank, CodeRange.covers, List.any_eq_false]
    intro range hrange hin
    simp only [CodeRange.contains, Bool.and_eq_true, decide_eq_true_eq, hd] at hin
    refine CaseRun.apply_outside hn (CaseRun.table_apart r hr range ?_) hin
    exact List.mem_cons_of_mem _ (List.mem_cons_of_mem _ hrange)
  · exact hc

/-- A text is lowered place by place, each character between what stands before
    it, read outward, and what stands after it. -/
theorem lowerFrom_eq_flatten (before cs : List Char) :
    lowerFrom before [] cs = (cs.mapIdx fun i c =>
      lowerAt ((cs.take i).reverse ++ before) c (cs.drop (i + 1))).flatten := by
  induction cs generalizing before with
  | nil => rfl
  | cons c rest ih =>
      rw [lowerFrom_cons, ih, List.mapIdx_cons, List.flatten_cons]
      -- What is passed is put in front of the context to the left.
      simp only [List.take_zero, List.reverse_nil, List.nil_append, List.drop_succ_cons,
        List.drop_zero, List.take_succ_cons, List.reverse_cons, List.append_assoc,
        List.singleton_append, Nat.zero_add]

theorem lower_eq_flatten (cs : List Char) :
    lower cs =
      (cs.mapIdx fun i c => lowerAt (cs.take i).reverse c (cs.drop (i + 1))).flatten := by
  rw [lower, lowerFrom_eq_flatten]
  simp only [List.append_nil]

/-- The lower case of a text ends in that of its last part. What stands before
    that part is lowered to something that depends on both. -/
theorem exists_lowerFrom_append (before cs ds : List Char) :
    ∃ front, lowerFrom before [] (cs ++ ds) = front ++ lowerFrom (cs.reverse ++ before) [] ds := by
  induction cs generalizing before with
  | nil => exact ⟨[], rfl⟩
  | cons c cs ih =>
      obtain ⟨front, hfront⟩ := ih (c :: before)
      refine ⟨lowerAt before c (cs ++ ds) ++ front, ?_⟩
      rw [List.cons_append, lowerFrom_cons, hfront, List.reverse_cons, List.append_assoc,
        List.append_assoc, List.singleton_append]

/-- All that is written in lower case is settled. -/
theorem settled_of_mem_lower {cs : List Char} {d : Char} (h : d ∈ lower cs) : IsSettled d := by
  rw [lower_eq_flatten] at h
  obtain ⟨part, hpart, hd⟩ := List.mem_flatten.mp h
  obtain ⟨i, hi, rfl⟩ := List.mem_mapIdx.mp hpart
  exact settled_of_mem_lowerAt hd

/-- A text of characters that each have one lower case wherever they stand is
    lowered character by character. The context to the left grows along the text,
    so the induction is over all of them. -/
theorem lowerFrom_eq_map {f : Char → Char} {cs : List Char}
    (h : ∀ c ∈ cs, ∀ before after, lowerAt before c after = [f c]) (before : List Char) :
    lowerFrom before [] cs = cs.map f := by
  induction cs generalizing before with
  | nil => rfl
  | cons c rest ih =>
      rw [lowerFrom_cons, h c List.mem_cons_self,
        ih fun d hd => h d (List.mem_cons_of_mem c hd), List.map_cons, List.singleton_append]

/-- Lowering a second time changes nothing. -/
theorem lower_lower (cs : List Char) : lower (lower cs) = lower cs := by
  have hmap : lower (lower cs) = (lower cs).map id :=
    lowerFrom_eq_map (fun c hc => settled_of_mem_lower hc) []
  rw [hmap, List.map_id]

/-- Read outward, the next letter has case, where characters that a word
    continues through are passed over. -/
def MeetsCased (cs : List Char) : Prop :=
  ∃ passed c rest, cs = passed ++ c :: rest ∧
    (∀ d ∈ passed, CodeRange.covers CaseData.caseIgnorable d = true) ∧
    CodeRange.covers CaseData.caseIgnorable c = false ∧
    CodeRange.covers CaseData.cased c = true

theorem caseAhead_iff (cs : List Char) : caseAhead cs = true ↔ MeetsCased cs := by
  constructor
  · intro h
    unfold caseAhead at h
    have hsplit := List.takeWhile_append_dropWhile
      (p := CodeRange.covers CaseData.caseIgnorable) (l := cs)
    have hnot := List.head?_dropWhile_not (CodeRange.covers CaseData.caseIgnorable) cs
    cases hrest : cs.dropWhile (CodeRange.covers CaseData.caseIgnorable) with
    | nil =>
        rw [hrest] at h
        exact absurd h Bool.false_ne_true
    | cons c rest =>
        rw [hrest] at h hsplit hnot
        exact ⟨_, c, rest, hsplit.symm, List.all_eq_true.mp List.all_takeWhile, hnot, h⟩
  · rintro ⟨passed, c, rest, rfl, hpassed, hc, hcased⟩
    have hrest : (c :: rest).dropWhile (CodeRange.covers CaseData.caseIgnorable) = c :: rest :=
      List.dropWhile_cons_of_neg (by rw [hc]; exact Bool.false_ne_true)
    rw [caseAhead, List.dropWhile_append_of_pos hpassed, hrest]
    exact hcased

instance (cs : List Char) : Decidable (MeetsCased cs) :=
  decidable_of_iff _ (caseAhead_iff cs)

/-- Only a sigma looks at what stands around it. It takes its final form if a
    letter with case comes before it and none after it. -/
theorem lowerAt_eq (before : List Char) (c : Char) (after : List Char) :
    lowerAt before c after =
      if c = '\u03A3' then
        [if MeetsCased before ∧ ¬ MeetsCased after then '\u03C2' else '\u03C3']
      else lowerChar c := by
  have hends : endsWord before after = true ↔ MeetsCased before ∧ ¬ MeetsCased after := by
    rw [endsWord, Bool.and_eq_true, Bool.not_eq_true', caseAhead_iff, ← caseAhead_iff after,
      Bool.not_eq_true]
  by_cases hc : c = '\u03A3'
  · rw [lowerAt, if_pos hc, if_pos hc]
    by_cases h : endsWord before after = true
    · rw [if_pos h, if_pos (hends.mp h)]
    · rw [if_neg h, if_neg (mt hends.mpr h)]
  · rw [lowerAt_of_ne hc, if_neg hc]

-- A sigma is final behind a letter, also if an apostrophe stands between, and
-- not on its own.
example : lower "\u039F\u0394\u039F'\u03A3 \u03A3".toList =
    "\u03BF\u03B4\u03BF'\u03C2 \u03C3".toList := by decide +kernel

/-- The code point of a character in ASCII lower case. -/
theorem toNat_toLower (c : Char) :
    c.toLower.toNat = if 0x41 ≤ c.toNat ∧ c.toNat ≤ 0x5A then c.toNat + 32 else c.toNat := by
  unfold Char.toLower
  by_cases h : c.val ≥ 'A'.val ∧ c.val ≤ 'Z'.val
  · have hcapital : 0x41 ≤ c.toNat ∧ c.toNat ≤ 0x5A := h
    rw [dif_pos h, if_pos hcapital]
    change (c.val + 32).toNat = c.toNat + 32
    rw [UInt32.toNat_add]
    -- A capital letter is far from where the sum would wrap.
    change (c.toNat + 32) % 4294967296 = c.toNat + 32
    omega
  · have hother : ¬ (0x41 ≤ c.toNat ∧ c.toNat ≤ 0x5A) := h
    rw [dif_neg h, if_neg hother]

/-- The capital letters of ASCII are the first run, and no other run has ASCII
    letters. -/
theorem lowerChar_ascii {c : Char} (hc : c.toNat < 128) : lowerChar c = [c.toLower] := by
  have hdot : c ≠ '\u0130' := by
    rintro rfl
    exact absurd hc (by decide)
  -- The other runs begin above ASCII.
  have hrest : CaseRun.table.tail.find? (·.contains c.toNat) = none := by
    rw [List.find?_eq_none]
    intro r hr hn
    have hfirst := CaseRun.first_of_mem_tail r hr
    have hin := (r.contains_iff c.toNat).mp hn
    omega
  have htable : CaseRun.table = ⟨0x41, 0x5A, 1, 0x61⟩ :: CaseRun.table.tail := rfl
  rw [lowerChar, if_neg hdot, htable]
  by_cases hcapital : 0x41 ≤ c.toNat ∧ c.toNat ≤ 0x5A
  · -- Within the run the distance to its small letters is always the same.
    have hin : CaseRun.contains ⟨0x41, 0x5A, 1, 0x61⟩ c.toNat = true := by
      rw [CaseRun.contains_iff]
      exact ⟨hcapital.1, hcapital.2, Nat.mod_one _⟩
    have hchar := (toNat_apply _ _ (htable ▸ List.mem_cons_self) hin).1
    simp only [List.find?_cons, hin]
    refine congrArg (fun d => [d]) (Char.toNat_inj.mp ?_)
    rw [hchar, toNat_toLower, if_pos hcapital]
    change 0x61 + (c.toNat - 0x41) = c.toNat + 32
    omega
  · have hout : ¬ CaseRun.contains ⟨0x41, 0x5A, 1, 0x61⟩ c.toNat = true := by
      rw [CaseRun.contains_iff]
      exact fun h => hcapital ⟨h.1, h.2.1⟩
    simp only [List.find?_cons, hout, hrest]
    refine congrArg (fun d => [d]) (Char.toNat_inj.mp ?_)
    rw [toNat_toLower, if_neg hcapital]

/-- ASCII characters are lowered each for itself. -/
theorem lower_ascii {cs : List Char} (h : ∀ c ∈ cs, c.toNat < 128) :
    lower cs = cs.map Char.toLower := by
  refine lowerFrom_eq_map (fun c hc before after => ?_) []
  have hsigma : c ≠ '\u03A3' := by
    rintro rfl
    exact absurd (h _ hc) (by decide)
  rw [lowerAt_of_ne hsigma, lowerChar_ascii (h c hc)]

end Text

/-- The characters are the same, or the two cases of one ASCII letter. -/
def SameLetter (a b : Char) : Prop :=
  a = b ∨ (a.isUpper = true ∧ b.toNat = a.toNat + 32) ∨
    (b.isUpper = true ∧ a.toNat = b.toNat + 32)

instance (a b : Char) : Decidable (SameLetter a b) :=
  inferInstanceAs (Decidable (_ ∨ _ ∨ _))

theorem toLower_eq_iff (a b : Char) : a.toLower = b.toLower ↔ SameLetter a b := by
  have hupper : ∀ c : Char, c.isUpper = true ↔ 0x41 ≤ c.toNat ∧ c.toNat ≤ 0x5A :=
    fun _ => decide_eq_true_iff
  rw [SameLetter, ← Char.toNat_inj, ← Char.toNat_inj, Text.toNat_toLower, Text.toNat_toLower,
    hupper, hupper]
  split <;> split <;> omega

namespace Word

/-- The lower case of a word is a word. -/
theorem isWord_lower {cs : List Char} (h : IsWord cs) : IsWord (Text.lower cs) where
  nonempty hnil := by
    -- Already the first character is lowered to something.
    obtain ⟨c, rest, rfl⟩ := List.exists_cons_of_ne_nil h.nonempty
    rw [Text.lower, Text.lowerFrom_cons] at hnil
    exact Text.lowerAt_ne_nil _ _ _ (List.append_eq_nil_iff.mp hnil).1
  no_comma := Text.not_mem_lower (by decide) h.no_comma
  head_not_blank d hd := by
    obtain ⟨c, rest, rfl⟩ := List.exists_cons_of_ne_nil h.nonempty
    rw [Text.lower, Text.lowerFrom_cons,
      List.head?_append_of_ne_nil _ (Text.lowerAt_ne_nil _ _ _)] at hd
    exact Text.not_blank_of_mem_lowerAt (h.head_not_blank c rfl) (List.mem_of_head? hd)
  last_not_blank d hd := by
    -- The last character is lowered last, after something that does not matter.
    obtain ⟨front, c, rfl⟩ := (List.eq_nil_or_concat' cs).resolve_left h.nonempty
    obtain ⟨before, hlower⟩ := Text.exists_lowerFrom_append [] front [c]
    have hend : ∀ ctx, Text.lowerFrom ctx [] [] = [] := fun _ => rfl
    rw [Text.lower, hlower, Text.lowerFrom_cons, hend, List.append_nil,
      List.getLast?_append_of_ne_nil _ (Text.lowerAt_ne_nil _ _ _)] at hd
    refine Text.not_blank_of_mem_lowerAt (h.last_not_blank c ?_) (List.mem_of_getLast? hd)
    exact List.getLast?_concat

/-- The word has only ASCII characters. -/
def IsAscii (word : Word) : Prop :=
  ∀ c ∈ word.chars, c.toNat < 128

instance (word : Word) : Decidable word.IsAscii :=
  List.decidableBAll _ word.chars

/-- The key of a keyword is a keyword in normal form. It is a word and the word
    of the line that it makes, and it is its own key. It is written place by
    place, and only a sigma looks at what stands around it, for a letter with
    case before it and none after it. In an ASCII word each character is lowered
    for itself, so ASCII words have one key exactly if they are the same up to
    the case of ASCII letters. -/
theorem key_is_normal (word : Word) :
    IsWord word.key.toList ∧
    (∃ key : Word, ofLine? word.key.toList = some key ∧ key.text = word.key ∧
      key.key = word.key) ∧
    word.key.toList = (word.chars.mapIdx fun i c =>
      Text.lowerAt (word.chars.take i).reverse c (word.chars.drop (i + 1))).flatten ∧
    (∀ before c after, Text.lowerAt before c after =
      if c = '\u03A3' then
        [if Text.MeetsCased before ∧ ¬ Text.MeetsCased after then '\u03C2' else '\u03C3']
      else Text.lowerChar c) ∧
    (word.IsAscii → word.key.length = word.text.length ∧
      word.key.toList = word.chars.map Char.toLower) ∧
    ∀ other : Word, word.IsAscii → other.IsAscii →
      (word.key = other.key ↔ List.Forall₂ SameLetter word.chars other.chars) := by
  have hword := isWord_lower word.isWord
  refine ⟨?_, ⟨⟨_, hword⟩, ?_, rfl, ?_⟩, ?_, Text.lowerAt_eq, fun hascii => ?_,
    fun other hascii hother => ?_⟩
  · rwa [toList_key]
  · rw [toList_key]
    exact ofLine_chars ⟨_, hword⟩
  · exact congrArg String.ofList (Text.lower_lower word.chars)
  · rw [toList_key, Text.lower_eq_flatten]
  · have hkey : word.key.toList = word.chars.map Char.toLower := by
      rw [toList_key, Text.lower_ascii hascii]
    refine ⟨?_, hkey⟩
    rw [← String.length_toList, ← String.length_toList, hkey, toList_text, List.length_map]
  · -- Lowered letter by letter, two words are equal if they are so at each place.
    rw [← String.toList_inj, toList_key, toList_key, Text.lower_ascii hascii,
      Text.lower_ascii hother, ← List.forall₂_eq_eq_eq, List.forall₂_map_left_iff,
      List.forall₂_map_right_iff]
    simp only [toLower_eq_iff]

/-- Two spellings of a keyword that share a key. -/
theorem key_is_normal_mixed :
    let word : Word := ⟨field "  WhileLoop, 1".toList, isWord_field (by decide +kernel)⟩
    let other : Word := ⟨field "whileLOOP".toList, isWord_field (by decide +kernel)⟩
    word.IsAscii ∧ other.IsAscii ∧ word.key = other.key ∧ word.key.length = word.text.length := by
  intro word other
  have hword : word.IsAscii := by decide +kernel
  have hother : other.IsAscii := by decide +kernel
  obtain ⟨-, -, -, -, hlength, hsame⟩ := key_is_normal word
  exact ⟨hword, hother, (hsame other hword hother).mpr (by decide +kernel), (hlength hword).1⟩

end Word

end KeywordTable
