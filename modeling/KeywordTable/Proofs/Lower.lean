import KeywordTable.Text.Lower

/-!
# What Lower Case Can Write

The table is written without any escapes, so what it looks like depends on
which characters a key can contain. A key is the lower case of a word, over
all of Unicode, and a letter can become two or change its shape by what stands
around it. None of that can produce a comma or a line feed: whatever is written
for a letter that changes is `a` or comes after it, and all characters that
mean something in the table come before. Nor can it produce a control. All but
one of those come before as well, and the one that comes after is not written.

That is a property of the data, read off the runs of `CaseRun.table` once. Each
run is lowered to code points from `a` on that are all characters, so no letter
is lost to a code point that is none. What remains is that a text is lowered
character by character, for which `lowerFrom` is unrolled from its accumulator.

## Main definitions

* `IsLowered`: A character that lowering may write.

## Theorems

* `lowerFrom_eq`: What was lowered before stands in front.
* `lower_table`: Every run is lowered to characters from `a` on.
* `toNat_apply`: The code point that a letter is lowered to is a character.
* `mem_lowerAt`: One character stays or becomes characters from `a` on.
* `mem_lower`: A lowered text has its own characters and characters from `a` on.
* `not_mem_lower`: No character before `a` is new in a lowered text.
* `mem_lower_iff`: A character before `a` without a lower case stays.
-/

namespace KeywordTable

namespace Text

/-- What was lowered before stands in front of the rest. -/
theorem lowerFrom_eq (before done cs : List Char) :
    lowerFrom before done cs = done.reverse ++ lowerFrom before [] cs := by
  induction cs generalizing before done with
  | nil => rw [lowerFrom, lowerFrom, List.reverse_nil, List.append_nil]
  | cons c rest ih =>
      rw [lowerFrom, lowerFrom, ih, ih (c :: before) (_ ++ []), List.append_nil,
        List.reverse_append, List.reverse_reverse, List.append_assoc]

theorem lowerFrom_cons (before : List Char) (c : Char) (rest : List Char) :
    lowerFrom before [] (c :: rest) =
      lowerAt before c rest ++ lowerFrom (c :: before) [] rest := by
  rw [lowerFrom, lowerFrom_eq, List.append_nil, List.reverse_reverse]

/-- A character that lowering may write: one from `a` on, but not the control
    among those. -/
def IsLowered (c : Char) : Prop :=
  0x61 ≤ c.toNat ∧ c.toNat ≠ 0x7F

/-- Every run is lowered to characters from `a` on, before or after the control
    there: to code points below the surrogates, or to code points above them
    that are in use. -/
theorem lower_table : ∀ r ∈ CaseRun.table,
    0x61 ≤ r.lower ∧ (r.apply r.last < 0x7F ∨ 0x7F < r.lower) ∧
    (r.apply r.last < 0xD800 ∨ (0xDFFF < r.lower ∧ r.apply r.last < 0x110000)) := by
  decide +kernel

/-- The code point that a letter is lowered to is that of a character, and of
    one that lowering may write. -/
theorem toNat_apply (r : CaseRun) (n : Nat) (hr : r ∈ CaseRun.table)
    (hn : r.contains n = true) :
    (Char.ofNat (r.apply n)).toNat = r.apply n ∧ 0x61 ≤ r.apply n ∧ r.apply n ≠ 0x7F := by
  rcases lower_table r hr with ⟨hlow, hcontrol, hchar⟩
  rw [CaseRun.contains, Bool.and_eq_true, Bool.and_eq_true, decide_eq_true_eq,
    decide_eq_true_eq] at hn
  unfold CaseRun.apply at hcontrol hchar ⊢
  -- No run reaches across the surrogates, so its members stay on one side.
  have hvalid : (r.lower + (n - r.first)).isValidChar := by
    rcases hchar with hbelow | ⟨habove, htop⟩
    · exact Or.inl (by omega)
    · exact Or.inr ⟨by omega, by omega⟩
  refine ⟨?_, by omega, by omega⟩
  rw [Char.ofNat, dif_pos hvalid]
  rfl

/-- One character stays as it is or becomes characters from `a` on. -/
theorem mem_lowerChar {c d : Char} (h : d ∈ lowerChar c) : d = c ∨ IsLowered d := by
  unfold lowerChar at h
  by_cases hdot : c = '\u0130'
  · rw [if_pos hdot] at h
    rcases List.mem_cons.mp h with rfl | h
    · exact Or.inr ⟨by decide, by decide⟩
    · rw [List.mem_singleton.mp h]
      exact Or.inr ⟨by decide, by decide⟩
  · rw [if_neg hdot] at h
    cases hfind : CaseRun.table.find? (·.contains c.toNat) with
    | none =>
        rw [hfind] at h
        exact Or.inl (List.mem_singleton.mp h)
    | some r =>
        rw [hfind] at h
        have hcontains : r.contains c.toNat = true := (List.find?_eq_some_iff_append.mp hfind).1
        have hlow := toNat_apply r c.toNat (List.mem_of_find?_eq_some hfind) hcontains
        rw [List.mem_singleton.mp h]
        exact Or.inr ⟨by omega, by omega⟩

/-- Between any two contexts too. Both shapes of the sigma come after `a`. -/
theorem mem_lowerAt {before after : List Char} {c d : Char} (h : d ∈ lowerAt before c after) :
    d = c ∨ IsLowered d := by
  unfold lowerAt at h
  by_cases hsigma : c = '\u03A3'
  · rw [if_pos hsigma] at h
    by_cases hend : endsWord before after = true
    · rw [if_pos hend] at h
      rw [List.mem_singleton.mp h]
      exact Or.inr ⟨by decide, by decide⟩
    · rw [if_neg hend] at h
      rw [List.mem_singleton.mp h]
      exact Or.inr ⟨by decide, by decide⟩
  · rw [if_neg hsigma] at h
    exact mem_lowerChar h

/-- A lowered text has its own characters and characters from `a` on. The
    context to the left grows along the text, so the induction is over all of
    them. -/
theorem mem_lowerFrom {before cs : List Char} {d : Char} (h : d ∈ lowerFrom before [] cs) :
    d ∈ cs ∨ IsLowered d := by
  induction cs generalizing before with
  | nil => exact Or.inl h
  | cons c rest ih =>
      rw [lowerFrom_cons, List.mem_append] at h
      rcases h with hhere | hrest
      · rcases mem_lowerAt hhere with rfl | hnew
        · exact Or.inl List.mem_cons_self
        · exact Or.inr hnew
      · rcases ih hrest with hold | hnew
        · exact Or.inl (List.mem_cons_of_mem c hold)
        · exact Or.inr hnew

theorem mem_lower {cs : List Char} {d : Char} (h : d ∈ lower cs) : d ∈ cs ∨ IsLowered d :=
  mem_lowerFrom h

/-- No character before `a` is new in a lowered text. -/
theorem not_mem_lower {cs : List Char} {d : Char} (hd : d.toNat < 0x61) (h : d ∉ cs) :
    d ∉ lower cs := by
  intro hmem
  rcases mem_lower hmem with hold | hnew
  · exact h hold
  · exact absurd hnew.1 (by omega)

/-- A character that lowering leaves as it is stays in the text. -/
theorem mem_lowerFrom_of_mem {before cs : List Char} {d : Char}
    (hd : ∀ before after, lowerAt before d after = [d]) (h : d ∈ cs) :
    d ∈ lowerFrom before [] cs := by
  induction cs generalizing before with
  | nil => exact absurd h List.not_mem_nil
  | cons c rest ih =>
      rw [lowerFrom_cons, List.mem_append]
      rcases List.mem_cons.mp h with rfl | hrest
      · exact Or.inl (by rw [hd]; exact List.mem_singleton_self d)
      · exact Or.inr (ih hrest)

/-- A character before `a` that has no lower case is in a lowered text if it was
    in the text. -/
theorem mem_lower_iff {cs : List Char} {d : Char} (hlow : d.toNat < 0x61)
    (hd : lowerChar d = [d]) : d ∈ lower cs ↔ d ∈ cs := by
  constructor
  · intro hmem
    rcases mem_lower hmem with hold | hnew
    · exact hold
    · exact absurd hnew.1 (by omega)
  · refine mem_lowerFrom_of_mem fun before after => ?_
    have hsigma : d ≠ '\u03A3' := by
      rintro rfl
      exact absurd hlow (by decide)
    rw [lowerAt, if_neg hsigma, hd]

end Text

end KeywordTable
