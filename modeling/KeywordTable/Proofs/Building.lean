import KeywordTable.Proofs.Contents
import Mathlib.Data.List.Forall2

/-!
# Building a Table from a Document

A table grows pair by pair and section by section, and each of these is a walk
along a path that may fail on the way. `Adds` is the one thing that is kept
about a change: if it does not fail, the table has afterwards what it had before
and what was added. That composes. Changing the node of one key adds below that
key what is added to the node, so a walk adds at the end of its path, and a
document adds one line after the other.

Nothing is said here about when a change fails. A table may have a header after
a dotted key has made it, or the other way round, and which of these are allowed
makes no difference to what comes out.

Arrays of tables are the exception to look at. A header goes through such an
array into its last table, where what was added cannot be told from outside; but
below an array of tables contents are not compared.

A document is compared as its lines, each a pair or a header. `Line.facts` puts
the header in front of each pair below it, after which the order of the lines
does not matter any more.

## Main definitions

* `Adds`: A change to a table that adds what the layout gives.
* `Pair.Agrees`, `Section.Agrees`: A part of a document as it was written.
* `Line`, `Line.facts`: What a line says, and the same with its whole path.
* `Value.ofLines`: A document as one table.
* `Outline`: The lines of a document, header by header.

## Theorems

* `adds_alter`: Changing one node adds what is added to that node.
* `adds_editAt`: What is changed at the end of a path is added there.
* `adds_addPair`: Adding a pair adds the pair.
* `adds_addTo`: Adding a section adds the section.
* `has_ofLines_iff`: A document has what its parts have.
* `agrees_entries`: The table that a document makes has what its lines give.
-/

namespace KeywordTable

namespace Toml

/-- A change to a table adds what the layout gives. -/
def Adds (edit : Entries → Option Entries) (added : PathLayout) : Prop :=
  ∀ (es es' : Entries) (layout : PathLayout), es.Agrees layout → edit es = some es' →
    es'.Agrees fun q c => layout q c ∨ added q c

/-- A change to a node adds what the layout gives, also where there was no node
    before. -/
structure AddsAt (change : Option Node → Option Node) (added : PathLayout) : Prop where
  new : ∀ n, change none = some n → n.Agrees added
  old : ∀ m n layout, Node.Agrees m layout → change (some m) = some n →
    n.Agrees fun q c => layout q c ∨ added q c

/-- A table that differs in the node of one key has what it had and what that
    node has more. -/
theorem agrees_of_find {es es' : Entries} {layout added : PathLayout} {key : String} {n : Node}
    (hes : es.Agrees layout) (hnodup : (es'.map (·.1.name)).Nodup)
    (hfind : ∀ name, es'.find? name = if name = key then some n else es.find? name)
    (hn : n.Agrees fun q c => layout (key :: q) c ∨ added q c) :
    es'.Agrees fun q c => layout q c ∨ PathLayout.under key added q c := by
  refine ⟨hnodup, fun c => ?_, fun name hnone q c => ?_, fun name m hm => ?_⟩
  · have hroot : (layout [] c ∨ c = .table) ↔ c = .table := by rw [hes.root, or_self]
    exact hroot
  · rw [hfind] at hnone
    by_cases hname : name = key
    · rw [if_pos hname] at hnone
      cases hnone
    · rw [if_neg hname] at hnone
      rintro (hlayout | hunder)
      · exact hes.absent name hnone q c hlayout
      · exact hname hunder.1
  · rw [hfind] at hm
    by_cases hname : name = key
    · rw [if_pos hname, Option.some.injEq] at hm
      subst hname hm
      exact hn.congr fun q c => or_congr_right (and_iff_right rfl).symm
    · rw [if_neg hname] at hm
      refine (hes.present name m hm).congr fun q c => ?_
      exact (or_iff_left fun hunder => hname hunder.1).symm

/-- Changing one node adds what is added to that node, under its key. -/
theorem adds_alter (key : Key) {change : Option Node → Option Node} {added : PathLayout}
    (h : AddsAt change added) :
    Adds (Entries.alter key change) (PathLayout.under key.name added) := by
  intro es es' layout hes halter
  rcases Entries.find_alter halter with ⟨n, hchange, hfind, hnodup⟩
  refine agrees_of_find hes (hnodup hes.nodup) hfind ?_
  -- Where there was no node the table had nothing under the key.
  cases hold : es.find? key.name with
  | none =>
      rw [hold] at hchange
      have habsent := hes.absent key.name hold
      exact (h.new n hchange).congr fun q c => (or_iff_right (habsent q c)).symm
  | some m =>
      rw [hold] at hchange
      exact h.old m n _ (hes.present _ m hold) hchange

/-- An array of tables stays one, and below it nothing is compared. -/
theorem agrees_tables {items items' : List (Entries × Span)} {layout : PathLayout}
    (h : (Node.tables items).Agrees layout) (added : PathLayout) :
    (Node.tables items').Agrees fun q c => layout q c ∨ added q c where
  distinct := .tables items'
  sound q c hat := by
    cases q with
    | nil => exact Or.inl (h.sound [] c hat)
    | cons name q => cases hat
  complete q _ _ := Or.inr ⟨[], List.nil_prefix, rfl⟩

/-- What is changed at the end of a path is added there. -/
theorem adds_editAt {made : Origin} {edit : Origin → Entries → Option Entries} {added : PathLayout}
    (hroot : ∀ c, added [] c ↔ c = .table) (h : ∀ origin, Adds (edit origin) added)
    (path : List Key) (origin : Origin) :
    Adds (Entries.editAt made edit path origin) (PathLayout.below (path.map (·.name)) added) := by
  induction path generalizing origin with
  | nil => exact h origin
  | cons key path ih =>
      refine adds_alter key ⟨fun n hn => ?_, fun m n layout hm hn => ?_⟩
      · -- A table that is made has nothing but what is added to it.
        rcases Option.map_eq_some_iff.mp hn with ⟨es, hes, rfl⟩
        rw [agrees_table_iff]
        refine (ih made [] es _ Entries.agrees_nil hes).congr fun q c => ⟨?_, Or.inr⟩
        rintro (⟨rfl, rfl⟩ | hadded)
        · exact (below_nil (Or.inr hroot) _).mpr rfl
        · exact hadded
      · cases m with
        | scalar x span => cases hn
        | array items span => cases hn
        | table old es span =>
            have hn : (if old = .inline ∨ (made = .dotted ∧ old = .header) then none
                else (Entries.editAt made edit path old es).map fun es => .table old es span)
                  = some n := hn
            -- The tables that the walk may not enter make it fail.
            split at hn
            · cases hn
            · rcases Option.map_eq_some_iff.mp hn with ⟨es', hes, rfl⟩
              rw [agrees_table_iff] at hm ⊢
              exact ih old es es' layout hm hes
        | tables items =>
            rcases Option.map_eq_some_iff.mp hn with ⟨items', -, rfl⟩
            exact agrees_tables hm _

/-- A node is added under a key that is not taken. -/
theorem adds_addNew (key : Key) {node : Node} {added : PathLayout} (h : node.Agrees added) :
    Adds (Entries.addNew key node) (PathLayout.under key.name added) := by
  refine adds_alter key ⟨fun n hn => ?_, fun m n layout hm hn => ?_⟩
  · rw [← Option.some.inj hn]
    exact h
  · cases hn

/-! ### The parts of a document -/

/-- The names of the keys of a path. -/
def KeyPath.names (path : KeyPath) : List String :=
  path.parents.map (·.name) ++ [path.last.name]

theorem names_ne_nil (path : KeyPath) : path.names ≠ [] :=
  List.concat_ne_nil _ _

/-- The pair was written as the given path and value. -/
structure Pair.Agrees (pair : Pair) (written : List String × Value) : Prop where
  names : pair.path.names = written.1
  value : pair.value.Agrees written.2.Has

/-- Adding a pair adds the pair. -/
theorem adds_addPair {pair : Pair} {written : List String × Value} (h : pair.Agrees written) :
    Adds (fun es => Entries.addPair es pair) (PathLayout.below written.1 written.2.Has) := by
  have hnew := adds_addNew pair.path.last h.value
  rw [← h.names, KeyPath.names, PathLayout.below, List.foldr_append]
  unfold Entries.addPair
  cases pair.path.parents with
  | nil => exact hnew
  | cons key path =>
      refine adds_editAt (fun c => Iff.rfl) (fun origin es es' layout hes hedit => ?_) (key :: path)
        .dotted
      split at hedit
      · exact hnew es es' layout hes hedit
      · cases hedit

/-- Changes made one after the other add what all of them give. -/
theorem adds_foldlM {α β : Type} (step : Entries → α → Option Entries) {given : α → β → Prop}
    (added : β → PathLayout) (hstep : ∀ a b, given a b → Adds (fun es => step es a) (added b))
    {as : List α} {bs : List β} (h : List.Forall₂ given as bs) :
    Adds (fun es => as.foldlM step es) fun q c => ∃ b ∈ bs, added b q c := by
  intro es es' layout hes hfold
  induction h generalizing es layout with
  | nil =>
      have hfold : some es = some es' := hfold
      rw [← Option.some.inj hfold]
      exact hes.congr fun q c => (or_iff_left fun ⟨_, hmem, _⟩ => absurd hmem List.not_mem_nil).symm
  | @cons a b as bs hab _ ih =>
      have hfold : (a :: as).foldlM step es = some es' := hfold
      rw [List.foldlM_cons] at hfold
      rcases Option.bind_eq_some_iff.mp hfold with ⟨es₁, hone, hrest⟩
      -- What the first change added counts as what was there before the others.
      refine (ih es₁ _ (hstep a b hab es es₁ layout hes hone) hrest).congr fun q c => ?_
      simp only [List.mem_cons, exists_eq_or_imp, or_assoc]

/-- Adding pairs adds what they give. -/
theorem adds_pairs {pairs : List Pair} {written : List (List String × Value)}
    (h : List.Forall₂ Pair.Agrees pairs written) :
    Adds (fun es => pairs.foldlM Entries.addPair es) (PathLayout.pairs written) :=
  adds_foldlM Entries.addPair (fun w : List String × Value => PathLayout.below w.1 w.2.Has)
    (fun _ _ => adds_addPair) h

/-- A header with the pairs below it, as they were written. -/
structure Part where
  path : List String
  isArray : Bool
  pairs : List (List String × Value)

namespace Part

/-- What the header of the part says is there. -/
def headed (part : Part) : Value :=
  if part.isArray then .tables else .table []

/-- The header and the pairs with their whole paths. -/
def facts (part : Part) : List (List String × Value) :=
  (part.path, part.headed) :: part.pairs.map fun w => (part.path ++ w.1, w.2)

/-- What the part gives at the end of the path of its header. -/
def layout (part : Part) : PathLayout :=
  fun q c => part.headed.Has q c ∨ PathLayout.pairs part.pairs q c

end Part

/-- The section was written as the given part. -/
structure Section.Agrees (s : Section) (part : Part) : Prop where
  names : s.header.path.names = part.path
  isArray : s.header.isArray = part.isArray
  pairs : List.Forall₂ Pair.Agrees s.pairs part.pairs

theorem erase_of_find_eq_none {es : Entries} {name : String} (h : es.find? name = none) :
    es.erase name = es := by
  refine List.filter_eq_self.mpr fun e he => bne_iff_ne.mpr fun heq => ?_
  exact Entries.find_eq_none_iff.mp h (List.mem_map.mpr ⟨e, he, heq⟩)

/-- A key whose node is new comes to stand at the end. -/
theorem agrees_concat {es : Entries} {layout added : PathLayout} {key : Key} {n : Node}
    (hes : es.Agrees layout)
    (hn : n.Agrees fun q c => layout (key.name :: q) c ∨ added q c) :
    Entries.Agrees (es.erase key.name ++ [(key, n)]) fun q c =>
      layout q c ∨ PathLayout.under key.name added q c := by
  refine agrees_of_find hes ?_ (fun name => ?_) hn
  · rw [List.map_append, List.map_singleton, List.nodup_append]
    refine ⟨hes.nodup.sublist (List.filter_sublist.map _), List.pairwise_singleton _ _, ?_⟩
    intro name hname other hother
    rw [List.mem_singleton.mp hother]
    rintro rfl
    refine Entries.find_eq_none_iff.mp ?_ hname
    rw [Entries.find_erase, if_pos rfl]
  · rw [Entries.find_concat, Entries.find_erase]
    by_cases hname : name = key.name
    · rw [if_pos hname, if_pos hname, if_pos hname.symm, Option.none_or]
    · rw [if_neg hname, if_neg hname, if_neg fun h => hname h.symm, Option.or_none]

/-- The pairs of a section on their own make a table of what they give. -/
theorem agrees_extend {s : Section} {part : Part} (h : s.Agrees part) {es es' : Entries}
    {layout : PathLayout} (hes : es.Agrees layout) (hextend : s.extend es = some es') :
    es'.Agrees fun q c => layout q c ∨ PathLayout.pairs part.pairs q c :=
  adds_pairs h.pairs es es' layout hes hextend

/-- Adding a section to the table that its last key belongs to adds the part
    under that key. -/
theorem adds_addIn {s : Section} {part : Part} (h : s.Agrees part) :
    Adds s.addIn (PathLayout.under s.header.path.last.name part.layout) := by
  by_cases harray : s.header.isArray = true
  · -- One more table of an array, into which nothing looks.
    have hheaded : part.headed = .tables := by rw [Part.headed, ← h.isArray, if_pos harray]
    intro es es' layout hes hadd
    unfold Section.addIn at hadd
    rw [if_pos harray] at hadd
    refine adds_alter s.header.path.last ⟨fun n hn => ?_, fun m n layout hm hn => ?_⟩ es es' layout
      hes hadd
    · rcases Option.bind_eq_some_iff.mp hn with ⟨es₁, -, hn⟩
      rw [← Option.some.inj hn]
      refine ⟨.tables _, fun q c hat => ?_, fun q c _ => Or.inr ⟨[], List.nil_prefix, rfl⟩⟩
      cases q with
      | nil =>
          rw [← Option.some.inj hat, Part.layout, hheaded]
          exact Or.inl .tables
      | cons name q => cases hat
    · cases m with
      | tables items =>
          rcases Option.bind_eq_some_iff.mp hn with ⟨es₁, -, hn⟩
          rw [← Option.some.inj hn]
          exact agrees_tables hm _
      | scalar x span => cases hn
      | array items span => cases hn
      | table origin inner span => cases hn
  · have hheaded : part.headed = .table [] := by
      rw [Part.headed, ← h.isArray, if_neg harray]
    have hhas : ∀ q c, part.headed.Has q c ↔ q = [] ∧ c = .table := by
      intro q c
      rw [hheaded, has_table_iff]
      exact or_iff_left fun ⟨_, hmem, _⟩ => absurd hmem List.not_mem_nil
    intro es es' layout hes hadd
    unfold Section.addIn at hadd
    rw [if_neg harray] at hadd
    -- A header may open a table that is new or that only paths have named so far.
    cases hfind : es.find? s.header.path.last.name with
    | none =>
        rw [hfind] at hadd
        rcases Option.bind_eq_some_iff.mp hadd with ⟨es₁, hextend, hadd⟩
        rw [← Option.some.inj hadd, ← erase_of_find_eq_none hfind]
        refine agrees_concat hes ?_
        rw [agrees_table_iff]
        refine (agrees_extend h Entries.agrees_nil hextend).congr fun q c => ?_
        have habsent := hes.absent _ hfind q c
        rw [or_iff_right habsent, Part.layout, hhas]
    | some n =>
        rw [hfind] at hadd
        cases n with
        | scalar x span => cases hadd
        | array items span => cases hadd
        | tables items => cases hadd
        | table origin inner span =>
            cases origin with
            | inline => cases hadd
            | header => cases hadd
            | dotted => cases hadd
            | implicit =>
                rcases Option.bind_eq_some_iff.mp hadd with ⟨es₁, hextend, hadd⟩
                rw [← Option.some.inj hadd]
                refine agrees_concat hes ?_
                -- That the table is there is nothing new, so only its pairs are added.
                have hinner := (agrees_table_iff ..).mp (hes.present _ _ hfind)
                rw [agrees_table_iff]
                refine (agrees_extend h hinner hextend).congr fun q c => ?_
                rw [Part.layout, hhas, ← or_assoc]
                refine or_congr_left (or_iff_left_of_imp ?_).symm
                rintro ⟨rfl, rfl⟩
                exact (hinner.root _).mpr rfl

theorem below_append (path path' : List String) (layout : PathLayout) :
    PathLayout.below (path ++ path') layout =
      PathLayout.below path (PathLayout.below path' layout) :=
  List.foldr_append

/-- What a part gives at the end of its path is what its header and its pairs
    give with their whole paths. -/
theorem below_layout_iff (part : Part) (q : List String) (c : Content) :
    PathLayout.below part.path part.layout q c ↔ PathLayout.pairs part.facts q c := by
  have hfacts : PathLayout.pairs part.facts q c ↔ PathLayout.below part.path part.headed.Has q c ∨
      ∃ w ∈ part.pairs, PathLayout.below part.path (PathLayout.below w.1 w.2.Has) q c := by
    simp only [PathLayout.pairs, Part.facts, List.mem_cons, List.mem_map, exists_eq_or_imp,
      exists_exists_and_eq_and, below_append]
  rw [hfacts, below_iff]
  constructor
  · rintro (hway | ⟨rest, rfl, hhead | ⟨w, hw, hrest⟩⟩)
    · exact Or.inl ((below_iff ..).mpr (Or.inl hway))
    · exact Or.inl ((below_iff ..).mpr (Or.inr ⟨rest, rfl, hhead⟩))
    · exact Or.inr ⟨w, hw, (below_iff ..).mpr (Or.inr ⟨rest, rfl, hrest⟩)⟩
  · rintro (hhead | ⟨w, hw, hpair⟩)
    · rcases (below_iff ..).mp hhead with hway | ⟨rest, rfl, hrest⟩
      · exact Or.inl hway
      · exact Or.inr ⟨rest, rfl, Or.inl hrest⟩
    · rcases (below_iff ..).mp hpair with hway | ⟨rest, rfl, hrest⟩
      · exact Or.inl hway
      · exact Or.inr ⟨rest, rfl, Or.inr ⟨w, hw, hrest⟩⟩

/-- Adding a section adds the section. -/
theorem adds_addTo {s : Section} {part : Part} (h : s.Agrees part) :
    Adds (fun es => Section.addTo es s) (PathLayout.pairs part.facts) := by
  intro es es' layout hes hadd
  have hedit := adds_editAt (fun c => Iff.rfl) (fun _ => adds_addIn h) s.header.path.parents .header
    es es' layout hes hadd
  refine hedit.congr fun q c => or_congr_right ?_
  rw [← below_layout_iff, ← h.names, KeyPath.names, below_append]
  exact Iff.rfl

/-! ### Whole documents -/

/-- What a line says, as it was written. -/
inductive Line where
  | pair (path : List String) (value : Value)
  | header (path : List String) (isArray : Bool)

/-- The line was written as given. -/
inductive Statement.Agrees : Statement → Line → Prop
  | pair {p : Pair} {path : List String} {value : Value} (h : p.Agrees (path, value)) :
    Statement.Agrees (.pair p) (.pair path value)
  | header {h : Header} {path : List String} {isArray : Bool} (hnames : h.path.names = path)
    (harray : h.isArray = isArray) : Statement.Agrees (.header h) (.header path isArray)

/-- The lines with their whole paths: the path of a pair goes on from the last
    header before it. -/
def Line.facts : List String → List Line → List (List String × Value)
  | _, [] => []
  | base, .pair path value :: lines => (base ++ path, value) :: facts base lines
  | _, .header path isArray :: lines =>
    (path, if isArray then .tables else .table []) :: facts path lines

/-- A document as the table of all that its lines give. -/
def Value.ofLines (lines : List Line) : Value :=
  .table (Line.facts [] lines)

/-- The lines of a document in their parts. -/
structure Outline where
  pairs : List (List String × Value)
  parts : List Part

/-- The parts that lines make. -/
def Outline.ofLines : List Line → Outline
  | [] => { pairs := [], parts := [] }
  | .pair path value :: lines =>
    { ofLines lines with pairs := (path, value) :: (ofLines lines).pairs }
  | .header path isArray :: lines =>
    { pairs := [], parts := ⟨path, isArray, (ofLines lines).pairs⟩ :: (ofLines lines).parts }

/-- The document was written as outlined. -/
structure Document.Agrees (doc : Document) (outline : Outline) : Prop where
  pairs : List.Forall₂ Pair.Agrees doc.pairs outline.pairs
  sections : List.Forall₂ Section.Agrees doc.sections outline.parts

theorem facts_eq (base : List String) (lines : List Line) :
    Line.facts base lines = (Outline.ofLines lines).pairs.map (fun w => (base ++ w.1, w.2)) ++
      (Outline.ofLines lines).parts.flatMap Part.facts := by
  induction lines generalizing base with
  | nil => rfl
  | cons line lines ih =>
      cases line with
      | pair path value =>
          rw [Line.facts, ih]
          rfl
      | header path isArray =>
          rw [Line.facts, ih]
          rfl

/-- Lines and statements are divided alike. -/
theorem agrees_ofLines {statements : List Statement} {lines : List Line}
    (h : List.Forall₂ Statement.Agrees statements lines) :
    (Document.ofLines statements).Agrees (Outline.ofLines lines) := by
  induction h with
  | nil => exact ⟨.nil, .nil⟩
  | cons hline _ ih =>
      cases hline with
      | pair hpair => exact ⟨.cons hpair ih.pairs, ih.sections⟩
      | header hnames harray => exact ⟨.nil, .cons ⟨hnames, harray, ih.pairs⟩ ih.sections⟩

/-- A document has what its first pairs and its parts have. -/
theorem has_ofLines_iff (lines : List Line) (q : List String) (c : Content) :
    (Value.ofLines lines).Has q c ↔ (q = [] ∧ c = .table) ∨
      PathLayout.pairs (Outline.ofLines lines).pairs q c ∨
        ∃ part ∈ (Outline.ofLines lines).parts, PathLayout.pairs part.facts q c := by
  rw [Value.ofLines, has_table_iff, facts_eq]
  simp only [PathLayout.pairs, List.nil_append, List.map_id_fun', id_eq, List.mem_append,
    List.mem_flatMap, or_and_right, exists_or]
  refine or_congr_right (or_congr_right ⟨?_, ?_⟩)
  · rintro ⟨w, ⟨part, hpart, hw⟩, hbelow⟩
    exact ⟨part, hpart, w, hw, hbelow⟩
  · rintro ⟨part, hpart, w, hw, hbelow⟩
    exact ⟨w, ⟨part, hpart, hw⟩, hbelow⟩

/-- The table that a document makes has what the lines of the document give. -/
theorem agrees_entries {doc : Document} {lines : List Line} {es : Entries}
    (h : doc.Agrees (Outline.ofLines lines)) (hentries : doc.entries? = some es) :
    es.Agrees (Value.ofLines lines).Has := by
  rcases Option.bind_eq_some_iff.mp hentries with ⟨es₀, hroot, hsections⟩
  have hes₀ := adds_pairs h.pairs [] es₀ _ Entries.agrees_nil hroot
  have hes := adds_foldlM Section.addTo (fun part : Part => PathLayout.pairs part.facts)
    (fun _ _ => adds_addTo) h.sections es₀ es _ hes₀ hsections
  exact hes.congr fun q c => or_assoc.trans (has_ofLines_iff lines q c).symm

end Toml

end KeywordTable
