import KeywordTable.Toml.Document

/-!
# What a Document Contains

A document says the same thing in many ways: by a header and a key below it, by
a dotted key, by a table in braces. Here it is what stands at the end of which
path. `Value.Has` gives that for a table written as a list of paths with values,
in no particular order, and a whole document is such a table once the headers
are put in front of the keys below them.

The nodes that a document is read into give it too, by walking down from key to
key. `Agrees` compares the two. The walk does not enter arrays of tables, so
below one nothing is compared. For a table the comparison comes down to its
keys, and then to what finding, erasing and changing the node of a key do to
each other.

## Main definitions

* `Content`: What can stand at the end of a path.
* `Value`: A value as a document writes it.
* `Value.Has`: What the value has at the end of a path.
* `PathLayout`: What stands at which path, in general.
* `Node.at?`: What a node has at the end of a path.
* `Node.Agrees`: The node has what the layout gives.

## Theorems

* `has_table_iff`: A table has what its pairs have.
* `below_iff`: Up to its end a path has tables only.
* `find_alter`: What changing the node of one key does.
* `agrees_table_iff`: A table is compared key by key.
-/

namespace KeywordTable

namespace Toml

/-! ### Values and what they have -/

/-- What can stand at the end of a path. Of an array it is known which of its
    items are strings. -/
inductive Content where
  | string (text : String)
  | array (texts : List (Option String))
  | table
  | tables
  | other
  deriving Repr, DecidableEq

/-- A value as a document writes it. A table is a list of paths with values.
    Arrays of tables, which come from headers, are not looked into. -/
inductive Value where
  | string (text : String)
  | array (items : List Value)
  | table (pairs : List (List String × Value))
  | tables
  | other

/-- The text of a string. -/
def Value.text? : Value → Option String
  | .string text => some text
  | _ => none

/-- At the end of the path the value has the content. -/
inductive Value.Has : Value → List String → Content → Prop
  | string (text : String) : (Value.string text).Has [] (.string text)
  | array (items : List Value) : (Value.array items).Has [] (.array (items.map Value.text?))
  | tables : Value.tables.Has [] .tables
  | other : Value.other.Has [] .other
  | table (pairs : List (List String × Value)) : (Value.table pairs).Has [] .table
  /-- There is a table on the way to each value. -/
  | through {pairs : List (List String × Value)} {pair : List String × Value} {q : List String}
    (hmem : pair ∈ pairs) (hway : q <+: pair.1) (hne : q ≠ pair.1) :
    (Value.table pairs).Has q .table
  | inside {pairs : List (List String × Value)} {pair : List String × Value} {q : List String}
    {c : Content} (hmem : pair ∈ pairs) (h : pair.2.Has q c) :
    (Value.table pairs).Has (pair.1 ++ q) c

/-- What stands at which path. -/
abbrev PathLayout := List String → Content → Prop

/-- The same below one more key. -/
def PathLayout.under (name : String) (layout : PathLayout) : PathLayout
  | [], c => c = .table
  | key :: q, c => key = name ∧ layout q c

/-- The same at the end of a path. -/
def PathLayout.below (path : List String) (layout : PathLayout) : PathLayout :=
  path.foldr PathLayout.under layout

/-- What pairs give, each on its own. -/
def PathLayout.pairs (pairs : List (List String × Value)) : PathLayout :=
  fun q c => ∃ pair ∈ pairs, PathLayout.below pair.1 pair.2.Has q c

/-- Up to its end a path has tables only. -/
theorem below_iff (path : List String) (layout : PathLayout) (q : List String) (c : Content) :
    PathLayout.below path layout q c ↔
      (q <+: path ∧ q ≠ path ∧ c = .table) ∨ ∃ rest, q = path ++ rest ∧ layout rest c := by
  induction path generalizing q with
  | nil =>
      have hpref : ¬ (q <+: [] ∧ q ≠ [] ∧ c = .table) := fun h => h.2.1 (List.prefix_nil.mp h.1)
      simp only [hpref, false_or, List.nil_append, exists_eq_left']
      rfl
  | cons name path ih =>
      cases q with
      | nil =>
          -- No content is above the path, only a table.
          have hnil : ¬ ∃ rest, ([] : List String) = name :: path ++ rest ∧ layout rest c := by
            rintro ⟨rest, hrest, -⟩
            cases hrest
          simp only [hnil, or_false, List.nil_prefix, true_and, ne_eq, reduceCtorEq,
            not_false_eq_true]
          rfl
      | cons key q =>
          -- The first names agree on both sides or on neither.
          have hstep : PathLayout.below (name :: path) layout (key :: q) c ↔
              key = name ∧ PathLayout.below path layout q c := Iff.rfl
          rw [hstep, ih]
          by_cases hkey : key = name
          · subst hkey
            simp only [true_and, List.cons_prefix_cons, ne_eq, List.cons.injEq, List.cons_append]
          · simp only [hkey, false_and, List.cons_prefix_cons, List.cons.injEq, List.cons_append,
              exists_false, or_self]

/-- A table has what its pairs have. -/
theorem has_table_iff (pairs : List (List String × Value)) (q : List String) (c : Content) :
    (Value.table pairs).Has q c ↔ (q = [] ∧ c = .table) ∨ PathLayout.pairs pairs q c := by
  constructor
  · intro h
    cases h with
    | table => exact Or.inl ⟨rfl, rfl⟩
    | @through _ pair _ hmem hway hne =>
        exact Or.inr ⟨pair, hmem, (below_iff ..).mpr (Or.inl ⟨hway, hne, rfl⟩)⟩
    | @inside _ pair q _ hmem h =>
        exact Or.inr ⟨pair, hmem, (below_iff ..).mpr (Or.inr ⟨q, rfl, h⟩)⟩
  · rintro (⟨rfl, rfl⟩ | ⟨pair, hmem, h⟩)
    · exact .table pairs
    · rcases (below_iff ..).mp h with ⟨hway, hne, rfl⟩ | ⟨rest, rfl, hrest⟩
      · exact .through hmem hway hne
      · exact .inside hmem hrest

/-- At the start of a path there is a table, as long as there is one at the
    start of what stands at its end. -/
theorem below_nil {path : List String} {layout : PathLayout}
    (h : path ≠ [] ∨ ∀ c, layout [] c ↔ c = .table) (c : Content) :
    PathLayout.below path layout [] c ↔ c = .table := by
  cases path with
  | nil =>
      rcases h with h | h
      · exact absurd rfl h
      · exact h c
  | cons name path => exact Iff.rfl

/-! ### Nodes and what they have -/

namespace Node

/-- The text of a string. -/
def text? : Node → Option String
  | .scalar (.string text) _ => some text
  | _ => none

/-- What a node is. -/
def content : Node → Content
  | .scalar (.string text) _ => .string text
  | .scalar _ _ => .other
  | .array items _ => .array (items.map text?)
  | .table _ _ _ => .table
  | .tables _ => .tables

/-- What a node has at the end of a path. -/
def at? : List String → Node → Option Content
  | [], n => some n.content
  | name :: path, .table _ es _ => (Entries.find? name es).bind (at? path)
  | _ :: _, _ => none

/-- No table within the node has a key twice. -/
inductive Distinct : Node → Prop
  | scalar (x : Scalar) (span : Span) : Distinct (.scalar x span)
  | array (items : List Node) (span : Span) : Distinct (.array items span)
  | tables (items : List (Entries × Span)) : Distinct (.tables items)
  | table (origin : Origin) {es : Entries} (span : Span) (hnodup : (es.map (·.1.name)).Nodup)
    (h : ∀ e ∈ es, Distinct e.2) : Distinct (.table origin es span)

/-- The node has what the layout gives, and nothing else, except that nothing is known
    below arrays of tables. -/
structure Agrees (n : Node) (layout : PathLayout) : Prop where
  distinct : n.Distinct
  sound : ∀ q c, n.at? q = some c → layout q c
  complete : ∀ q c, layout q c → n.at? q = some c ∨ ∃ a, a <+: q ∧ n.at? a = some .tables

theorem Agrees.congr {n : Node} {layout layout' : PathLayout} (h : n.Agrees layout)
    (hiff : ∀ q c, layout q c ↔ layout' q c) : n.Agrees layout' where
  distinct := h.distinct
  sound q c hat := (hiff q c).mp (h.sound q c hat)
  complete q c hlayout := h.complete q c ((hiff q c).mpr hlayout)

end Node

namespace Entries

/-- The table has what the layout gives, compared key by key. -/
structure Agrees (es : Entries) (layout : PathLayout) : Prop where
  nodup : (es.map (·.1.name)).Nodup
  root : ∀ c, layout [] c ↔ c = .table
  absent : ∀ name, es.find? name = none → ∀ q c, ¬ layout (name :: q) c
  present : ∀ name n, es.find? name = some n → n.Agrees fun q c => layout (name :: q) c

theorem Agrees.congr {es : Entries} {layout layout' : PathLayout} (h : es.Agrees layout)
    (hiff : ∀ q c, layout q c ↔ layout' q c) : es.Agrees layout' where
  nodup := h.nodup
  root c := (hiff [] c).symm.trans (h.root c)
  absent name hnone q c hlayout := h.absent name hnone q c ((hiff _ c).mpr hlayout)
  present name n hfind := (h.present name n hfind).congr fun q c => hiff (name :: q) c

/-- The empty table has nothing but itself. -/
theorem agrees_nil : Entries.Agrees [] fun q c => q = [] ∧ c = .table where
  nodup := List.nodup_nil
  root _ := and_iff_right rfl
  absent name _ q _ h := absurd h.1 (List.cons_ne_nil name q)
  present _ _ hfind := nomatch hfind

theorem mem_of_find {es : Entries} {name : String} {n : Node} (h : es.find? name = some n) :
    ∃ k : Key, k.name = name ∧ (k, n) ∈ es := by
  rcases Option.map_eq_some_iff.mp h with ⟨⟨k, m⟩, hfind, rfl⟩
  have hname := List.find?_some hfind
  exact ⟨k, beq_iff_eq.mp hname, List.mem_of_find?_eq_some hfind⟩

theorem find_cons (k : Key) (n : Node) (es : Entries) (name : String) :
    find? name ((k, n) :: es) = if k.name = name then some n else es.find? name := by
  unfold find?
  by_cases h : k.name = name
  · simp only [List.find?_cons, h, beq_self_eq_true, Option.map_some, if_true]
  · simp only [List.find?_cons, beq_eq_false_iff_ne.mpr h, if_neg h]

/-- Without a key twice, every entry is the one that is found. -/
theorem find_of_mem {es : Entries} (hnodup : (es.map (·.1.name)).Nodup) {e : Key × Node}
    (h : e ∈ es) : es.find? e.1.name = some e.2 := by
  induction es with
  | nil => exact absurd h List.not_mem_nil
  | cons f es ih =>
      rw [List.map_cons, List.nodup_cons] at hnodup
      rw [find_cons]
      rcases List.mem_cons.mp h with rfl | h
      · rw [if_pos rfl]
      · have hne : f.1.name ≠ e.1.name := by
          intro heq
          exact hnodup.1 (List.mem_map.mpr ⟨e, h, heq.symm⟩)
        rw [if_neg hne, ih hnodup.2 h]

theorem find_eq_none_iff {es : Entries} {name : String} :
    es.find? name = none ↔ name ∉ es.map (·.1.name) := by
  induction es with
  | nil => exact iff_of_true rfl List.not_mem_nil
  | cons e es ih =>
      rw [find_cons, List.map_cons, List.mem_cons, not_or, ← ih]
      by_cases h : e.1.name = name
      · rw [if_pos h]
        exact iff_of_false (fun hnone => nomatch hnone) fun hand => hand.1 h.symm
      · rw [if_neg h]
        exact (and_iff_right fun h' => h h'.symm).symm

/-- A key is added at the end. -/
theorem find_concat (es : Entries) (k : Key) (n : Node) (name : String) :
    find? name (es ++ [(k, n)]) =
      (es.find? name).or (if k.name = name then some n else none) := by
  induction es with
  | nil => rw [List.nil_append, find_cons]; rfl
  | cons e es ih =>
      rw [List.cons_append, find_cons, find_cons, ih]
      by_cases h : e.1.name = name
      · rw [if_pos h, if_pos h, Option.some_or]
      · rw [if_neg h, if_neg h]

theorem find_erase (es : Entries) (erased name : String) :
    (es.erase erased).find? name = if name = erased then none else es.find? name := by
  induction es with
  | nil => unfold erase find?; split <;> rfl
  | cons e es ih =>
      unfold erase at ih ⊢
      rw [List.filter_cons, find_cons]
      by_cases he : e.1.name = erased
      · have hfalse : (e.1.name != erased) = false := by rw [he, bne_self_eq_false]
        rw [hfalse, if_neg Bool.false_ne_true, ih, he]
        by_cases h : name = erased
        · rw [if_pos h, if_pos h]
        · rw [if_neg h, if_neg h, if_neg fun h' => h h'.symm]
      · rw [if_pos (bne_iff_ne.mpr he), find_cons, ih]
        by_cases h : e.1.name = name
        · rw [if_pos h, if_pos h, if_neg fun h' => he (h.trans h')]
        · rw [if_neg h, if_neg h]

/-- Changing the node of one key changes nothing else. -/
theorem find_alter {key : Key} {change : Option Node → Option Node} {es es' : Entries}
    (h : alter key change es = some es') :
    ∃ n, change (es.find? key.name) = some n ∧
      (∀ name, es'.find? name = if name = key.name then some n else es.find? name) ∧
      ((es.map (·.1.name)).Nodup → (es'.map (·.1.name)).Nodup) := by
  induction es generalizing es' with
  | nil =>
      -- The key is new and comes last.
      rcases Option.map_eq_some_iff.mp h with ⟨n, hchange, rfl⟩
      refine ⟨n, hchange, fun name => ?_, fun _ => List.pairwise_singleton _ _⟩
      rw [find_cons]
      by_cases hname : name = key.name
      · rw [if_pos hname, if_pos hname.symm]
      · rw [if_neg hname, if_neg fun h => hname h.symm]
  | cons e es ih =>
      rw [alter] at h
      by_cases hkey : e.1.name = key.name
      · -- The key is the first one, and keeps its place.
        rw [if_pos hkey] at h
        rcases Option.map_eq_some_iff.mp h with ⟨n, hchange, rfl⟩
        refine ⟨n, by rw [find_cons, if_pos hkey, hchange], fun name => ?_, fun hnodup => hnodup⟩
        rw [find_cons, find_cons, hkey]
        by_cases hname : name = key.name
        · rw [if_pos hname, if_pos hname.symm]
        · have hname' : ¬ key.name = name := fun h => hname h.symm
          rw [if_neg hname, if_neg hname', if_neg hname']
      · rw [if_neg hkey] at h
        rcases Option.map_eq_some_iff.mp h with ⟨es'', halter, rfl⟩
        rcases ih halter with ⟨n, hchange, hfind, hnodup⟩
        refine ⟨n, by rw [find_cons, if_neg hkey, hchange], fun name => ?_, fun hcons => ?_⟩
        · rw [find_cons, find_cons, hfind]
          by_cases hname : name = key.name
          · rw [if_pos hname, if_neg fun h => hkey (h.trans hname), if_pos hname]
          · rw [if_neg hname, if_neg hname]
        · rw [List.map_cons, List.nodup_cons] at hcons ⊢
          refine ⟨?_, hnodup hcons.2⟩
          -- The name in front is not the one that may have been added.
          rw [← find_eq_none_iff, hfind, if_neg hkey, find_eq_none_iff]
          exact hcons.1

end Entries

/-- A table is compared key by key. -/
theorem agrees_table_iff (origin : Origin) (es : Entries) (span : Span) (layout : PathLayout) :
    (Node.table origin es span).Agrees layout ↔ es.Agrees layout := by
  constructor
  · intro h
    cases h.distinct with
    | table _ _ hnodup hdistinct =>
      -- Above the keys there is no array of tables.
      have hcomplete : ∀ name q c, layout (name :: q) c →
          ((Entries.find? name es).bind (Node.at? q) = some c ∨
            ∃ a, a <+: q ∧ (Entries.find? name es).bind (Node.at? a) = some .tables) := by
        intro name q c hlayout
        rcases h.complete _ c hlayout with hat | ⟨a, hpref, hat⟩
        · exact Or.inl hat
        · cases a with
          | nil => exact nomatch (show some Content.table = some Content.tables from hat)
          | cons name' a =>
              rcases List.cons_prefix_cons.mp hpref with ⟨rfl, hrest⟩
              exact Or.inr ⟨a, hrest, hat⟩
      refine ⟨hnodup, fun c => ⟨fun hlayout => ?_, ?_⟩, fun name hnone q c hlayout => ?_,
        fun name n hfind => ⟨?_, fun q c hat => ?_, fun q c hlayout => ?_⟩⟩
      · rcases h.complete [] c hlayout with hat | ⟨a, hpref, hat⟩
        · exact (Option.some.inj hat).symm
        · rw [List.prefix_nil.mp hpref] at hat
          exact nomatch (show some Content.table = some Content.tables from hat)
      · rintro rfl
        exact h.sound [] .table rfl
      · have hcases := hcomplete name q c hlayout
        rw [hnone] at hcases
        rcases hcases with hat | ⟨a, -, hat⟩ <;> cases hat
      · rcases Entries.mem_of_find hfind with ⟨k, -, hmem⟩
        exact hdistinct (k, n) hmem
      · refine h.sound (name :: q) c ?_
        rw [Node.at?, hfind]
        exact hat
      · have hcases := hcomplete name q c hlayout
        rw [hfind] at hcases
        exact hcases
  · intro h
    refine ⟨.table origin span h.nodup fun e he => ?_, fun q c hat => ?_, fun q c hlayout => ?_⟩
    · exact (h.present _ _ (Entries.find_of_mem h.nodup he)).distinct
    · cases q with
      | nil => exact (h.root c).mpr (Option.some.inj hat).symm
      | cons name q =>
          rw [Node.at?] at hat
          rcases Option.bind_eq_some_iff.mp hat with ⟨n, hfind, hat⟩
          exact (h.present name n hfind).sound q c hat
    · cases q with
      | nil => exact Or.inl (congrArg some ((h.root c).mp hlayout).symm)
      | cons name q =>
          cases hfind : es.find? name with
          | none => exact absurd hlayout (h.absent name hfind q c)
          | some n =>
              have hdown : ∀ a, (Node.table origin es span).at? (name :: a) = n.at? a := by
                intro a
                rw [Node.at?, hfind]
                rfl
              rcases (h.present name n hfind).complete q c hlayout with hat | ⟨a, hpref, hat⟩
              · exact Or.inl ((hdown q).trans hat)
              · exact Or.inr ⟨name :: a, List.cons_prefix_cons.mpr ⟨rfl, hpref⟩,
                  (hdown a).trans hat⟩

end Toml

end KeywordTable
