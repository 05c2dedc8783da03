import KeywordTable.Proofs.Building

/-!
# Keys That Do Not Collide

When the pairs and sections of a document can be put together. Two paths collide
if one begins with the other, since then the shorter one stands for a value, or
for a table that is finished. Pairs that are apart in this sense always make a
table: `Free` says that there is room for a path in a table, and adding a pair
takes no room from a path that is apart from it.

Sections are considered only as far as settings go, with one key in the header
and no arrays of tables. There they need a key that nothing has taken.

## Main definitions

* `Apart`: Neither path begins with the other.
* `Entries.Free`: There is room for the path in the table.
* `Line.Clash`: Two lines give the same key.
* `Consistent`: No key of a document is given twice.

## Theorems

* `exists_addPair`: A pair can be added where there is room for its path.
* `free_addPair`: Adding a pair leaves room for paths apart from it.
* `exists_ofPairs`: Pairs that are apart make a table.
* `clear_ofLines`: Lines that do not clash are apart in every part.
* `exists_entries`: Lines that do not clash make a table.
-/

namespace KeywordTable

namespace Toml

/-- Neither path begins with the other. -/
def Apart (p q : List String) : Prop :=
  ¬ p <+: q ∧ ¬ q <+: p

instance (p q : List String) : Decidable (Apart p q) :=
  inferInstanceAs (Decidable (_ ∧ _))

theorem Apart.symm {p q : List String} (h : Apart p q) : Apart q p :=
  ⟨h.2, h.1⟩

/-- Behind a common beginning, paths are apart if their rests are. -/
theorem apart_append_iff (base p q : List String) : Apart (base ++ p) (base ++ q) ↔ Apart p q := by
  unfold Apart
  rw [List.prefix_append_right_inj, List.prefix_append_right_inj]

theorem apart_cons_iff (name : String) (p q : List String) :
    Apart (name :: p) (name :: q) ↔ Apart p q :=
  apart_append_iff [name] p q

theorem apart_singleton {name name' : String} (h : name ≠ name') : Apart [name] [name'] := by
  refine ⟨fun hprefix => h ?_, fun hprefix => h ?_⟩
  · exact (List.cons_prefix_cons.mp hprefix).1
  · exact (List.cons_prefix_cons.mp hprefix).1.symm

namespace Entries

/-- There is room for the path in the table: going along it one comes to a key
    that is not taken, and only through tables that dotted keys made. -/
def Free : List String → Entries → Prop
  | [], _ => False
  | name :: path, es => es.find? name = none ∨
      ∃ inner span, es.find? name = some (.table .dotted inner span) ∧ Free path inner

theorem free_nil {path : List String} (h : path ≠ []) : Free path [] := by
  cases path with
  | nil => exact absurd rfl h
  | cons name path => exact Or.inl rfl

/-- Whether there is room shows in the first key alone. -/
theorem Free.congr {name : String} {path : List String} {es es' : Entries}
    (h : Free (name :: path) es) (hfind : es'.find? name = es.find? name) :
    Free (name :: path) es' := by
  unfold Free
  rw [hfind]
  exact h

/-- A node can be changed where the change is possible. -/
theorem exists_alter {key : Key} {change : Option Node → Option Node} {es : Entries} {n : Node}
    (h : change (es.find? key.name) = some n) : ∃ es', alter key change es = some es' := by
  induction es with
  | nil =>
      have hnone : change none = some n := h
      exact ⟨[(key, n)], by rw [alter, hnone, Option.map_some]⟩
  | cons e es ih =>
      rw [find_cons] at h
      rw [alter]
      by_cases hkey : e.1.name = key.name
      · rw [if_pos hkey] at h
        rw [if_pos hkey, h, Option.map_some]
        exact ⟨_, rfl⟩
      · rw [if_neg hkey] at h
        rcases ih h with ⟨es', hes'⟩
        rw [if_neg hkey, hes', Option.map_some]
        exact ⟨_, rfl⟩

theorem exists_addNew {key : Key} {es : Entries} (h : es.find? key.name = none) (node : Node) :
    ∃ es', addNew key node es = some es' := by
  refine exists_alter (n := node) ?_
  rw [h]

/-- The change that a pair with a dotted key makes at the end of its path. -/
def addLast (pair : Pair) (origin : Origin) (es : Entries) : Option Entries :=
  if origin = .dotted then addNew pair.path.last pair.value es else none

theorem addPair_eq (es : Entries) (pair : Pair) :
    addPair es pair = editAt .dotted (addLast pair) pair.path.parents .dotted es := by
  unfold addPair
  cases pair.path.parents with
  | nil => rfl
  | cons key path => rfl

/-- Where there is room for a path, the way along it can be gone. -/
theorem exists_editAt (pair : Pair) (path : List Key) {es : Entries}
    (h : Free (path.map (·.name) ++ [pair.path.last.name]) es) :
    ∃ es', editAt .dotted (addLast pair) path .dotted es = some es' := by
  induction path generalizing es with
  | nil =>
      rcases h with hnone | ⟨_, _, _, hfree⟩
      · exact exists_addNew hnone pair.value
      · exact hfree.elim
  | cons key path ih =>
      rw [editAt]
      rcases h with hnone | ⟨inner, span, hfind, hfree⟩
      · -- The table on the way is made, and in an empty table there is room.
        rcases ih (free_nil (List.concat_ne_nil _ _)) with ⟨es', hes'⟩
        refine exists_alter (n := .table .dotted es' key.span) ?_
        rw [hnone, hes']
        rfl
      · rcases ih hfree with ⟨es', hes'⟩
        refine exists_alter (n := .table .dotted es' span) ?_
        rw [hfind]
        simp only [reduceCtorEq, and_false, or_self, if_false, hes', Option.map_some]

/-- A pair can be added where there is room for its path. -/
theorem exists_addPair {pair : Pair} {es : Entries} (h : Free pair.path.names es) :
    ∃ es', addPair es pair = some es' := by
  rw [addPair_eq]
  exact exists_editAt pair pair.path.parents h

/-- Going along a path leaves room for paths that are apart from it. -/
theorem free_editAt {pair : Pair} {path : List Key} {q : List String} {es es' : Entries}
    (hedit : editAt .dotted (addLast pair) path .dotted es = some es') (h : Free q es)
    (hapart : Apart q (path.map (·.name) ++ [pair.path.last.name])) : Free q es' := by
  induction path generalizing q es es' with
  | nil =>
      cases q with
      | nil => exact h.elim
      | cons name q =>
          rcases find_alter hedit with ⟨n, -, hfind, -⟩
          have hname : name ≠ pair.path.last.name := by
            rintro rfl
            exact hapart.2 (List.cons_prefix_cons.mpr ⟨rfl, List.nil_prefix⟩)
          exact h.congr (by rw [hfind, if_neg hname])
  | cons key path ih =>
      cases q with
      | nil => exact h.elim
      | cons name q =>
          rw [editAt] at hedit
          rcases find_alter hedit with ⟨n, hchange, hfind, -⟩
          by_cases hname : name = key.name
          · subst hname
            have hrest := (apart_cons_iff ..).mp hapart
            rcases h with hnone | ⟨inner, span, hinner, hfree⟩
            · -- The table is new, and empty but for the path.
              rw [hnone] at hchange
              rcases Option.map_eq_some_iff.mp hchange with ⟨es₁, hes₁, rfl⟩
              have hne : q ≠ [] := by
                rintro rfl
                exact hrest.1 List.nil_prefix
              refine Or.inr ⟨es₁, key.span, ?_, ih hes₁ (free_nil hne) hrest⟩
              rw [hfind, if_pos rfl]
            · rw [hinner] at hchange
              simp only [reduceCtorEq, and_false, or_self, if_false] at hchange
              rcases Option.map_eq_some_iff.mp hchange with ⟨es₁, hes₁, rfl⟩
              refine Or.inr ⟨es₁, span, ?_, ih hes₁ hfree hrest⟩
              rw [hfind, if_pos rfl]
          · -- Under another first key nothing has changed.
            exact h.congr (by rw [hfind, if_neg hname])

/-- Adding a pair leaves room for paths that are apart from it. -/
theorem free_addPair {pair : Pair} {q : List String} {es es' : Entries}
    (hadd : addPair es pair = some es') (h : Free q es) (hapart : Apart q pair.path.names) :
    Free q es' := by
  rw [addPair_eq] at hadd
  exact free_editAt hadd h hapart

/-- Pairs that are apart can be added one after the other. -/
theorem exists_addPairs {pairs : List Pair} {es : Entries}
    (hfree : ∀ p ∈ pairs, Free p.path.names es)
    (hapart : pairs.Pairwise fun p p' => Apart p.path.names p'.path.names) :
    ∃ es', pairs.foldlM addPair es = some es' := by
  induction pairs generalizing es with
  | nil => exact ⟨es, rfl⟩
  | cons p pairs ih =>
      -- What carries the induction is that the later pairs still have room.
      rw [List.pairwise_cons] at hapart
      rcases exists_addPair (hfree p List.mem_cons_self) with ⟨es₁, hes₁⟩
      have hrest : ∀ p' ∈ pairs, Free p'.path.names es₁ := by
        intro p' hp'
        exact free_addPair hes₁ (hfree p' (List.mem_cons_of_mem p hp')) (hapart.1 p' hp').symm
      rcases ih hrest hapart.2 with ⟨es', hes'⟩
      exact ⟨es', by rw [List.foldlM_cons, hes₁]; exact hes'⟩

/-- Pairs that are apart make a table. -/
theorem exists_ofPairs {pairs : List Pair}
    (hapart : pairs.Pairwise fun p p' => Apart p.path.names p'.path.names) :
    ∃ es, ofPairs? pairs = some es :=
  exists_addPairs (fun p _ => free_nil (names_ne_nil p.path)) hapart

end Entries

theorem pairwise_names {pairs : List Pair} {written : List (List String × Value)}
    (h : List.Forall₂ Pair.Agrees pairs written)
    (hapart : written.Pairwise fun w w' => Apart w.1 w'.1) :
    pairs.Pairwise fun p p' => Apart p.path.names p'.path.names := by
  have hmap : pairs.map (·.path.names) = written.map (·.1) := by
    induction h with
    | nil => rfl
    | cons hpair _ ih =>
        rw [List.map_cons, List.map_cons, hpair.names, ih (List.pairwise_cons.mp hapart).2]
  have hnames : (pairs.map (·.path.names)).Pairwise Apart := by
    rw [hmap]
    exact List.pairwise_map.mpr hapart
  exact List.pairwise_map.mp hnames

theorem names_eq_singleton {path : KeyPath} {name : String} (h : path.names = [name]) :
    path.parents = [] ∧ path.last.name = name := by
  unfold KeyPath.names at h
  cases hparents : path.parents with
  | nil =>
      rw [hparents] at h
      exact ⟨rfl, List.head_eq_of_cons_eq h⟩
  | cons key parents =>
      rw [hparents] at h
      exact absurd (List.cons.inj h).2 (List.concat_ne_nil _ _)

/-- A section with one key can be added where that key is not taken, and takes
    no other key. -/
theorem exists_addTo {s : Section} {part : Part} {name : String} (h : s.Agrees part)
    (hpath : part.path = [name]) (hsingle : part.isArray = false)
    (hapart : part.pairs.Pairwise fun w w' => Apart w.1 w'.1) {es : Entries}
    (hfree : es.find? name = none) :
    ∃ es', Section.addTo es s = some es' ∧
      ∀ other, other ≠ name → es'.find? other = es.find? other := by
  rcases names_eq_singleton (h.names.trans hpath) with ⟨hparents, rfl⟩
  have harray : ¬ s.header.isArray = true := by
    rw [h.isArray, hsingle]
    exact Bool.false_ne_true
  rcases Entries.exists_ofPairs (pairwise_names h.pairs hapart) with ⟨inner, hinner⟩
  have hextend : s.extend [] = some inner := hinner
  refine ⟨es ++ [(s.header.path.last, .table .header inner s.span)], ?_, fun other hother => ?_⟩
  · unfold Section.addTo Section.addIn
    rw [hparents, Entries.editAt, if_neg harray, hfree]
    simp only [hextend]
    rfl
  · rw [Entries.find_concat, if_neg fun h => hother h.symm, Option.or_none]

/-- A part that settings can have: its header has one key and adds no table to
    an array. -/
def Part.Plain (part : Part) : Prop :=
  (∃ name, part.path = [name]) ∧ part.isArray = false

/-- Sections with one key each can be added where their keys are not taken. -/
theorem exists_addSections {sections : List Section} {parts : List Part}
    (h : List.Forall₂ Section.Agrees sections parts) (hplain : ∀ part ∈ parts, part.Plain)
    (hapart : ∀ part ∈ parts, part.pairs.Pairwise fun w w' => Apart w.1 w'.1)
    (hnodup : (parts.map (·.path)).Nodup) {es : Entries}
    (hfree : ∀ part ∈ parts, ∀ name, part.path = [name] → es.find? name = none) :
    ∃ es', sections.foldlM Section.addTo es = some es' := by
  induction h generalizing es with
  | nil => exact ⟨es, rfl⟩
  | @cons s part sections parts hs _ ih =>
      rw [List.map_cons, List.nodup_cons] at hnodup
      rw [List.forall_mem_cons] at hplain hapart hfree
      rcases hplain.1 with ⟨⟨name, hname⟩, hsingle⟩
      rcases exists_addTo hs hname hsingle hapart.1 (hfree.1 name hname) with ⟨es₁, hes₁, hother⟩
      have hrest : ∀ part' ∈ parts, ∀ name', part'.path = [name'] → es₁.find? name' = none := by
        intro part' hpart' name' hname'
        have hne : name' ≠ name := by
          rintro rfl
          exact hnodup.1 (List.mem_map.mpr ⟨part', hpart', hname'.trans hname.symm⟩)
        rw [hother name' hne]
        exact hfree.2 part' hpart' name' hname'
      rcases ih hplain.2 hapart.2 hnodup.2 hrest with ⟨es', hes'⟩
      exact ⟨es', by rw [List.foldlM_cons, hes₁]; exact hes'⟩

theorem exists_of_mem_right {α β : Type} {given : α → β → Prop} {as : List α} {bs : List β}
    (h : List.Forall₂ given as bs) {b : β} (hb : b ∈ bs) : ∃ a, given a b := by
  induction h with
  | nil => exact absurd hb List.not_mem_nil
  | @cons a _ _ _ hab _ ih =>
      rcases List.mem_cons.mp hb with rfl | hb
      · exact ⟨a, hab⟩
      · exact ih hb

/-- The keys of a table that pairs make are their first ones. -/
theorem find_ofPairs {pairs : List Pair} {written : List (List String × Value)} {es : Entries}
    (h : List.Forall₂ Pair.Agrees pairs written) (hes : Entries.ofPairs? pairs = some es)
    {name : String} (hnone : ∀ w ∈ written, ¬ [name] <+: w.1) : es.find? name = none := by
  have hagrees := adds_pairs h [] es _ Entries.agrees_nil hes
  cases hfind : es.find? name with
  | none => rfl
  | some n =>
      exfalso
      rcases (hagrees.present name n hfind).sound [] n.content rfl with ⟨hnil, -⟩ | ⟨w, hw, hbelow⟩
      · cases hnil
      · rcases (below_iff ..).mp hbelow with ⟨hway, -, -⟩ | ⟨rest, hrest, -⟩
        · exact hnone w hw hway
        · rcases exists_of_mem_right h hw with ⟨pair, hpair⟩
          have hne : w.1 ≠ [] := hpair.names ▸ names_ne_nil pair.path
          cases hpath : w.1 with
          | nil => exact hne hpath
          | cons key path =>
              rw [hpath, List.cons_append, List.cons.injEq] at hrest
              refine hnone w hw ?_
              rw [hpath, hrest.1]
              exact List.cons_prefix_cons.mpr ⟨rfl, List.nil_prefix⟩

/-! ### Lines that do not collide -/

/-- Each line with the path of the header before it. -/
def Line.placed : List String → List Line → List (List String × Line)
  | _, [] => []
  | base, .pair path value :: lines => (base, .pair path value) :: placed base lines
  | base, .header path isArray :: lines => (base, .header path isArray) :: placed path lines

/-- The header leads to something that the pair has made, or through it. -/
def Reopens (base path header : List String) : Prop :=
  base <+: header ∧ base ≠ header ∧ ¬ Apart header (base ++ path)

instance (base path header : List String) : Decidable (Reopens base path header) :=
  inferInstanceAs (Decidable (_ ∧ _ ∧ _))

/-- The lines give the same key. -/
def Line.Clash : List String × Line → List String × Line → Prop
  | (base, .pair path _), (base', .pair path' _) => ¬ Apart (base ++ path) (base' ++ path')
  | (base, .pair path _), (_, .header path' _) => Reopens base path path'
  | (_, .header path _), (base', .pair path' _) => Reopens base' path' path
  | (_, .header path _), (_, .header path' _) => path = path'

instance : DecidableRel Line.Clash
  | (base, .pair path _), (base', .pair path' _) =>
    inferInstanceAs (Decidable (¬ Apart (base ++ path) (base' ++ path')))
  | (base, .pair path _), (_, .header path' _) =>
    inferInstanceAs (Decidable (Reopens base path path'))
  | (_, .header path _), (base', .pair path' _) =>
    inferInstanceAs (Decidable (Reopens base' path' path))
  | (_, .header path _), (_, .header path' _) => inferInstanceAs (Decidable (path = path'))

/-- No key is given twice. With an array of tables a key may be given once for
    each of them, and nothing is asked of such a document here. -/
def Consistent (lines : List Line) : Prop :=
  (∀ path, Line.header path true ∉ lines) →
    (Line.placed [] lines).Pairwise fun line line' => ¬ Line.Clash line line'

theorem mem_placed_pair (base : List String) {lines : List Line} {w : List String × Value}
    (h : w ∈ (Outline.ofLines lines).pairs) :
    (base, Line.pair w.1 w.2) ∈ Line.placed base lines := by
  induction lines with
  | nil => exact absurd h List.not_mem_nil
  | cons line lines ih =>
      cases line with
      | pair path value =>
          rcases List.mem_cons.mp h with rfl | h
          · exact List.mem_cons_self
          · exact List.mem_cons_of_mem _ (ih h)
      | header path isArray => exact absurd h List.not_mem_nil

theorem mem_placed_header (base : List String) {lines : List Line} {part : Part}
    (h : part ∈ (Outline.ofLines lines).parts) :
    ∃ before, (before, Line.header part.path part.isArray) ∈ Line.placed base lines := by
  induction lines generalizing base with
  | nil => exact absurd h List.not_mem_nil
  | cons line lines ih =>
      cases line with
      | pair path value =>
          rcases ih base h with ⟨before, hmem⟩
          exact ⟨before, List.mem_cons_of_mem _ hmem⟩
      | header path isArray =>
          rcases List.mem_cons.mp h with rfl | h
          · exact ⟨base, List.mem_cons_self⟩
          · rcases ih path h with ⟨before, hmem⟩
            exact ⟨before, List.mem_cons_of_mem _ hmem⟩

/-- What it means for the parts of a document that no lines clash. -/
structure Outline.Clear (outline : Outline) (base : List String) : Prop where
  pairs : outline.pairs.Pairwise fun w w' => Apart w.1 w'.1
  within : ∀ part ∈ outline.parts, part.pairs.Pairwise fun w w' => Apart w.1 w'.1
  headers : (outline.parts.map (·.path)).Nodup
  between : ∀ part ∈ outline.parts, ∀ w ∈ outline.pairs, ¬ Reopens base w.1 part.path

theorem clear_ofLines {base : List String} {lines : List Line}
    (h : (Line.placed base lines).Pairwise fun line line' => ¬ Line.Clash line line') :
    (Outline.ofLines lines).Clear base := by
  induction lines generalizing base with
  | nil => exact ⟨.nil, fun _ hpart => absurd hpart List.not_mem_nil, .nil,
      fun _ hpart => absurd hpart List.not_mem_nil⟩
  | cons line lines ih =>
      cases line with
      | pair path value =>
          -- A new pair has to be apart from those up to the next header, and from
          -- every header that comes later.
          rcases List.pairwise_cons.mp h with ⟨hhead, htail⟩
          have hclear := ih htail
          refine ⟨List.pairwise_cons.mpr ⟨fun w hw => ?_, hclear.pairs⟩, hclear.within,
            hclear.headers, fun part hpart w hw => ?_⟩
          · have hclash := hhead _ (mem_placed_pair base hw)
            exact (apart_append_iff base path w.1).mp (not_not.mp hclash)
          · rcases List.mem_cons.mp hw with rfl | hw
            · have hlater : part ∈ (Outline.ofLines lines).parts := hpart
              rcases mem_placed_header base hlater with ⟨before, hmem⟩
              exact hhead _ hmem
            · exact hclear.between part hpart w hw
      | header path isArray =>
          -- The pairs so far become the part of this header, whose path is new.
          rcases List.pairwise_cons.mp h with ⟨hhead, htail⟩
          have hclear := ih htail
          refine ⟨.nil, fun part hpart => ?_, List.nodup_cons.mpr ⟨fun hmem => ?_, hclear.headers⟩,
            fun part _ w hw => absurd hw List.not_mem_nil⟩
          · rcases List.mem_cons.mp hpart with rfl | hpart
            · exact hclear.pairs
            · exact hclear.within part hpart
          · rcases List.mem_map.mp hmem with ⟨part, hpart, hpath⟩
            rcases mem_placed_header path hpart with ⟨before, hplaced⟩
            exact hhead _ hplaced hpath.symm

theorem exists_part_of_mem {lines : List Line} {path : List String} {isArray : Bool}
    (h : Line.header path isArray ∈ lines) :
    ∃ part ∈ (Outline.ofLines lines).parts, part.isArray = isArray := by
  induction lines with
  | nil => exact absurd h List.not_mem_nil
  | cons line lines ih =>
      cases line with
      | pair path' value =>
          rcases List.mem_cons.mp h with h | h
          · cases h
          · exact ih h
      | header path' isArray' =>
          rcases List.mem_cons.mp h with h | h
          · rw [(Line.header.inj h).2]
            exact ⟨_, List.mem_cons_self, rfl⟩
          · rcases ih h with ⟨part, hpart, harray⟩
            exact ⟨part, List.mem_cons_of_mem _ hpart, harray⟩

/-- A document makes a table if no lines clash and its headers have one key
    each. -/
theorem exists_entries {doc : Document} {outline : Outline} (h : doc.Agrees outline)
    (hclear : outline.Clear []) (hplain : ∀ part ∈ outline.parts, part.Plain) :
    ∃ es, doc.entries? = some es := by
  rcases Entries.exists_ofPairs (pairwise_names h.pairs hclear.pairs) with ⟨es₀, hes₀⟩
  have hfree : ∀ part ∈ outline.parts, ∀ name, part.path = [name] → es₀.find? name = none := by
    intro part hpart name hname
    refine find_ofPairs h.pairs hes₀ fun w hw hprefix => hclear.between part hpart w hw ?_
    rw [hname]
    exact ⟨List.nil_prefix, (List.cons_ne_nil name []).symm, fun hapart => hapart.1 hprefix⟩
  rcases exists_addSections h.sections hplain hclear.within hclear.headers hfree with ⟨es, hes⟩
  refine ⟨es, ?_⟩
  unfold Document.entries?
  rw [hes₀]
  exact hes

end Toml

end KeywordTable
