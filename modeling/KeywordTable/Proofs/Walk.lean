import KeywordTable.Proofs.Path
import KeywordTable.Proofs.World
import Mathlib.Data.List.Forall2

/-!
# Walking Outwards

A file is looked for in a directory and then in every directory around it. Those
are found by cutting the text of a path, which may have more slashes and dots
than it needs, so it has to be shown that no directory is left out or met twice
and that the walk comes to an end where it should. The routes of the directories
say all of it. There is one directory for each beginning of the route of the
start, and they come from the longest to the shortest.

The text of a directory that is met is a beginning of the text of the start, and
the last one is the root or the empty path. A start without names on its way is
the last one itself, in whatever way it is written.

Which paths a walk asks about is not part of its answer. `Noting` is a host that
answers like a world and notes the paths, so that what a walk asks for and in
which order can be stated: the candidates one by one, up to the first file.

Two paths with one route are walked through the same routes. So if what is a file
is told by the route, the files that are found have one route.

## Main definitions

* `IsWalk`: The directories that are met from a start outwards.
* `Noting`: Runs in a world that notes the paths that are asked about.
* `StopsAtFirst`: The paths are tried up to the first file.

## Theorems

* `Text.eq_append_of_split`: A text is put together from its pieces.
* `Path.prefix_of_mem_cuts`: A cut of a path is a beginning of its text.
* `Path.map_route_ancestors`: The ancestors have the beginnings of the route.
* `Path.isWalk_ancestors`: The ancestors are a walk.
* `run_findM_cons`: A search first asks about its first path.
* `run_findM`: A search asks about the paths up to the first file.
* `find_alike`: Paths with the same routes lead to files with the same route.
* `Path.map_route_candidates`: Candidates have the same routes if the starts have.
* `findUpwards_walks`: What a walk tries and what it finds.
-/

namespace KeywordTable

/-- A text is its pieces with the separator between them. -/
theorem Text.eq_append_of_split {sep : Char} {cs first : List Char} {rest : List (List Char)}
    (h : Text.split sep cs = first :: rest) : cs = first ++ rest.flatMap (sep :: ·) := by
  induction cs generalizing first rest with
  | nil =>
      obtain ⟨rfl, rfl⟩ := List.cons.inj (show [[]] = first :: rest from h)
      rfl
  | cons c cs ih =>
      obtain ⟨first', rest', hsplit⟩ := List.exists_cons_of_ne_nil (Text.split_ne_nil sep cs)
      rw [Text.split_cons, hsplit] at h
      have hcs := ih hsplit
      -- A separator starts a new piece, any other character goes to the first.
      by_cases hc : c = sep
      · rw [if_pos hc] at h
        obtain ⟨rfl, rfl⟩ := List.cons.inj h
        rw [hc, List.flatMap_cons, List.nil_append, List.cons_append, ← hcs]
      · rw [if_neg hc, List.modifyHead_cons] at h
        obtain ⟨rfl, rfl⟩ := List.cons.inj h
        rw [List.cons_append, ← hcs]

namespace Path

/-- The cuts that are made after a text are beginnings of the text with the
    pieces behind it. -/
theorem prefix_of_mem_cutsFrom {before : List Char} {pieces : List (List Char)} {cut : Path}
    (h : cut ∈ cutsFrom before pieces) : cut.chars <+: before ++ pieces.flatMap ('/' :: ·) := by
  induction pieces generalizing before with
  | nil => exact absurd h List.not_mem_nil
  | cons piece rest ih =>
      -- What stands before the cuts grows by the piece, a name or not.
      have hnext : before ++ (piece :: rest).flatMap ('/' :: ·) =
          (before ++ '/' :: piece) ++ rest.flatMap ('/' :: ·) := by
        rw [List.flatMap_cons, List.append_assoc]
      rw [hnext]
      rw [cutsFrom] at h
      by_cases hname : isName piece = true
      · rw [if_pos hname] at h
        rcases List.mem_cons.mp h with rfl | h
        · exact List.prefix_append _ _
        · exact ih h
      · rw [if_neg hname] at h
        exact ih h

/-- A cut of a path is a beginning of its text. -/
theorem prefix_of_mem_cuts {p cut : Path} (h : cut ∈ p.cuts) : cut.chars <+: p.chars := by
  obtain ⟨first, rest, hsplit⟩ := List.exists_cons_of_ne_nil (Text.split_ne_nil '/' p.chars)
  have htext := Text.eq_append_of_split hsplit
  simp only [cuts, hsplit] at h
  by_cases habs : p.isAbsolute = true
  · obtain ⟨tail, htail⟩ := List.head?_eq_some_iff.mp (beq_iff_eq.mp habs)
    -- Nothing stands before the first slash.
    have hfirst : first = [] := by
      rw [htail, Text.split_cons, if_pos rfl] at hsplit
      exact (List.cons.inj hsplit).1.symm
    rw [if_pos habs] at h
    rcases List.mem_cons.mp h with rfl | h
    · rw [htail]
      exact List.prefix_append ['/'] tail
    · rw [htext, hfirst]
      exact prefix_of_mem_cutsFrom h
  · rw [if_neg habs, List.mem_append, List.mem_cons, List.mem_map] at h
    rcases h with (rfl | ⟨piece, hpiece, rfl⟩) | h
    · exact List.nil_prefix
    · rw [htext, List.mem_singleton.mp (List.mem_filter.mp hpiece).1]
      exact List.prefix_append _ _
    · rw [htext]
      exact prefix_of_mem_cutsFrom h

/-- The path that a path without names is like: the root or the empty path. -/
def outermost (p : Path) : Path :=
  .ofText (if p.isAbsolute = true then "/" else "")

theorem route_outermost (p : Path) :
    p.outermost.route = { absolute := p.isAbsolute, names := [] } := by
  unfold outermost
  cases p.isAbsolute with
  | true => rfl
  | false => rfl

theorem head_cuts (p : Path) : p.cuts.head? = some p.outermost := by
  obtain ⟨first, rest, hsplit⟩ := List.exists_cons_of_ne_nil (Text.split_ne_nil '/' p.chars)
  simp only [cuts, hsplit, outermost]
  by_cases habs : p.isAbsolute = true
  · rw [if_pos habs, if_pos habs]
    rfl
  · rw [if_neg habs, if_neg habs]
    rfl

theorem length_cuts (p : Path) : p.cuts.length = p.route.names.length + 1 := by
  rw [← List.length_map Path.route, map_route_cuts, List.length_map, List.length_inits]

/-- The ancestors of a path have the beginnings of its route, one each, from the
    longest to the shortest. -/
theorem map_route_ancestors (p : Path) :
    p.ancestors.map route = p.route.names.inits.reverse.map (Route.mk p.isAbsolute) := by
  have hinits : p.route.names.inits = p.route.names.inits.dropLast ++ [p.route.names] :=
    (List.dropLast_append_getLast? _ (getLast_inits p.route.names)).symm
  have hself : p.route = Route.mk p.isAbsolute p.route.names := by rw [← route_absolute]
  rw [ancestors, List.map_cons, List.map_reverse, List.map_dropLast, map_route_cuts,
    ← List.map_dropLast, ← List.map_reverse, route_absolute]
  -- The path itself has the longest beginning, which is no cut that was kept.
  rw [hinits, List.reverse_append, List.reverse_singleton, List.singleton_append, List.map_cons,
    List.dropLast_concat, ← hself]

end Path

/-- The directories that are met from a start outwards. The first is the start
    itself. They have the beginnings of its route, one each, from the longest to
    the shortest, and their texts are beginnings of its text. The last has the
    route of the root or of the empty path, and is it, unless it is the start. -/
structure IsWalk (start : Path) (dirs : List Path) : Prop where
  first : dirs.head? = some start
  routes : dirs.map Path.route =
    start.route.names.inits.reverse.map (Route.mk start.isAbsolute)
  texts : ∀ dir ∈ dirs, dir.chars <+: start.chars
  last : ∀ dir ∈ dirs.getLast?, dir.route = start.outermost.route
  ends : start.route.names ≠ [] → dirs.getLast? = some start.outermost

theorem Path.isWalk_ancestors (start : Path) : IsWalk start start.ancestors where
  first := rfl
  routes := start.map_route_ancestors
  texts dir hdir := by
    rcases List.mem_cons.mp hdir with rfl | hdir
    · exact List.prefix_refl _
    · exact prefix_of_mem_cuts ((List.dropLast_sublist _).mem (List.mem_reverse.mp hdir))
  last dir hdir := by
    have hlast := congrArg List.getLast? start.map_route_ancestors
    rw [List.getLast?_map, hdir, List.getLast?_map, List.getLast?_reverse,
      inits_eq_cons start.route.names] at hlast
    rw [route_outermost]
    exact Option.some.inj hlast
  ends hnames := by
    have hlength : 1 < start.cuts.length := by
      have hpos := List.length_pos_of_ne_nil hnames
      rw [length_cuts]
      omega
    rw [ancestors, List.getLast?_cons, List.getLast?_reverse, List.head?_dropLast, if_pos hlength,
      head_cuts]
    rfl

variable {σ : Type} [FileStore σ]

/-- Runs in a world, where the paths that were asked about are noted. -/
abbrev Noting (σ : Type) := StateT (List Path) (Simulated σ)

/-- Answers are those of the world. Only the question whether a path is a file is
    noted. -/
instance : Host (Noting σ) where
  isFile p := do
    modify (· ++ [p])
    Host.isFile (m := Simulated σ) p
  load p := Host.load (m := Simulated σ) p
  read p := Host.read (m := Simulated σ) p
  write p text := Host.write (m := Simulated σ) p text
  print stream styled text := Host.print (m := Simulated σ) stream styled text
  log event := Host.log (m := Simulated σ) event
  timed act := do return (← act, 0)

/-- The paths are tried one by one up to the first file, which is the answer. If
    there is none, all are tried. -/
inductive StopsAtFirst (isFile : Path → Bool) : List Path → Option Path → List Path → Prop
  | found {before after : List Path} {p : Path} (hbefore : ∀ q ∈ before, isFile q = false)
      (hp : isFile p = true) :
      StopsAtFirst isFile (before ++ p :: after) (some p) (before ++ [p])
  | missed {paths : List Path} (h : ∀ q ∈ paths, isFile q = false) :
      StopsAtFirst isFile paths none paths

/-- A path that is no file is tried and passed. -/
theorem StopsAtFirst.cons {isFile : Path → Bool} {p : Path} {paths tried : List Path}
    {answer : Option Path} (h : StopsAtFirst isFile paths answer tried)
    (hp : isFile p = false) : StopsAtFirst isFile (p :: paths) answer (p :: tried) := by
  have hcons : ∀ {qs : List Path}, (∀ q ∈ qs, isFile q = false) → ∀ q ∈ p :: qs, isFile q = false :=
    fun hqs => List.forall_mem_cons.mpr ⟨hp, hqs⟩
  cases h with
  | found hbefore hfound => exact .found (hcons hbefore) hfound
  | missed hnone => exact .missed (hcons hnone)

/-- Nothing is found exactly if nothing is there. -/
theorem StopsAtFirst.eq_none_iff {isFile : Path → Bool} {paths tried : List Path}
    {answer : Option Path} (h : StopsAtFirst isFile paths answer tried) :
    answer = none ↔ ∀ q ∈ paths, isFile q = false := by
  cases h with
  | found hbefore hp =>
      refine iff_of_false (Option.some_ne_none _) fun hnone => ?_
      have hp' := hnone _ (List.mem_append_right _ List.mem_cons_self)
      exact Bool.false_ne_true (hp'.symm.trans hp)
  | missed hnone => exact iff_of_true rfl hnone

/-- A search first asks about its first path. -/
theorem run_findM_cons (p : Path) (paths asked : List Path) (w : World σ) :
    (((p :: paths).findM? Host.isFile : Noting σ (Option Path)).run asked).run w =
      if FileStore.isFile w.store p = true then ((some p, asked ++ [p]), w)
      else ((paths.findM? Host.isFile : Noting σ (Option Path)).run (asked ++ [p])).run w := by
  have hask : ∀ k : Bool → Noting σ (Option Path), ((Host.isFile p >>= k).run asked).run w =
      ((k (FileStore.isFile w.store p)).run (asked ++ [p])).run w := fun _ => rfl
  rw [List.findM?, hask]
  cases FileStore.isFile w.store p with
  | true => rfl
  | false => rfl

/-- A search asks about the paths one by one, up to the first file. -/
theorem run_findM (paths asked : List Path) (w : World σ) :
    ∃ tried, ((paths.findM? Host.isFile : Noting σ (Option Path)).run asked).run w =
        ((paths.find? (FileStore.isFile w.store), asked ++ tried), w) ∧
      StopsAtFirst (FileStore.isFile w.store) paths
        (paths.find? (FileStore.isFile w.store)) tried := by
  induction paths generalizing asked with
  | nil =>
      refine ⟨[], ?_, .missed fun q hq => absurd hq List.not_mem_nil⟩
      rw [List.append_nil]
      rfl
  | cons p paths ih =>
      rw [run_findM_cons, List.find?_cons]
      by_cases hp : FileStore.isFile w.store p = true
      · have hnone : ∀ q ∈ ([] : List Path), FileStore.isFile w.store q = false :=
          fun q hq => absurd hq List.not_mem_nil
        -- What comes after the first file is not asked about.
        rw [if_pos hp]
        simp only [hp]
        exact ⟨[p], rfl, .found hnone hp⟩
      · have hnot : FileStore.isFile w.store p = false := Bool.eq_false_iff.mpr hp
        obtain ⟨tried, hrun, htried⟩ := ih (asked ++ [p])
        rw [if_neg hp, hrun]
        simp only [hnot]
        refine ⟨p :: tried, ?_, htried.cons hnot⟩
        rw [List.append_assoc, List.singleton_append]

/-- Where what is a file is told by the route, searches among paths with the same
    routes find files with the same route, or nothing. -/
theorem find_alike {isFile : Path → Bool} (hfile : ∀ p q : Path, p.route = q.route →
    isFile p = isFile q) {ps qs : List Path} (h : ps.map Path.route = qs.map Path.route) :
    (ps.find? isFile).map Path.route = (qs.find? isFile).map Path.route := by
  induction ps generalizing qs with
  | nil => rw [List.map_eq_nil_iff.mp h.symm]
  | cons p ps ih =>
      obtain ⟨q, qs, rfl, hpq, hrest⟩ := List.map_eq_cons_iff.mp h.symm
      rw [List.find?_cons, List.find?_cons, ← hfile p q hpq.symm]
      cases isFile p with
      | true => exact congrArg some hpq.symm
      | false => exact ih hrest.symm

/-- Candidates have the same routes if the starts have. -/
theorem Path.map_route_candidates {start start' : Path} (h : start.route = start'.route)
    (name : Path) :
    (start.candidates name).map Path.route = (start'.candidates name).map Path.route := by
  have habs : start.isAbsolute = start'.isAbsolute := by
    rw [← route_absolute, ← route_absolute, h]
  have hdirs : start.ancestors.map Path.route = start'.ancestors.map Path.route := by
    rw [map_route_ancestors, map_route_ancestors, h, habs]
  rw [← List.forall₂_eq_eq_eq] at hdirs ⊢
  simp only [candidates, List.forall₂_map_left_iff, List.forall₂_map_right_iff] at hdirs ⊢
  exact hdirs.imp fun dir dir' hroute => route_join_congr hroute name

/-- A walk tries the name in the start and in every directory around it, from the
    inside out, one candidate each, up to the first that is a file. That one is
    the answer, and there is none exactly if none of the candidates is a file.
    Where what is a file is told by the route, walks from two starts with the same
    route find files with the same route, or both find nothing. -/
theorem findUpwards_walks (w : World σ) (start name : Path) :
    let found := fun start => ((findUpwards start name : Simulated σ (Option Path)).run w).1
    let noted := (((findUpwards start name : Noting σ (Option Path)).run []).run w).1
    (∃ dirs, IsWalk start dirs ∧ noted.1 = found start ∧
      StopsAtFirst (FileStore.isFile w.store) (dirs.map (·.join name)) (found start) noted.2 ∧
      (found start = none ↔ ∀ dir ∈ dirs, FileStore.isFile w.store (dir.join name) = false)) ∧
    ((∀ p q : Path, p.route = q.route → FileStore.isFile w.store p = FileStore.isFile w.store q) →
      ∀ start', start.route = start'.route →
        (found start).map Path.route = (found start').map Path.route) := by
  intro found noted
  have hfound : ∀ start, found start = (start.candidates name).find? (FileStore.isFile w.store) :=
    fun start => (gives_findM (start.candidates name) w.store w rfl).1
  obtain ⟨tried, hrun, htried⟩ := run_findM (start.candidates name) [] w
  have hnoted : noted = ((start.candidates name).find? (FileStore.isFile w.store), tried) :=
    congrArg Prod.fst hrun
  rw [hfound, hnoted]
  refine ⟨⟨start.ancestors, start.isWalk_ancestors, rfl, htried, ?_⟩, fun hfile start' h => ?_⟩
  · rw [htried.eq_none_iff]
    exact List.forall_mem_map
  · rw [hfound]
    exact find_alike hfile (Path.map_route_candidates h name)

/-- A file in the second directory around the start, which is written in two
    ways. -/
theorem findUpwards_walks_spelled :
    let s : Memory := Memory.insert {} (.ofText "/a/k") "x"
    let w : World Memory := { store := s }
    let found := fun start =>
      ((findUpwards (.ofText start) (.ofText "k") : Simulated Memory (Option Path)).run w).1
    (∀ p q : Path, p.route = q.route → s.contains p = s.contains q) ∧
    (Path.ofText "/a/b/../c").route = (Path.ofText "//a/./b/..//c/").route ∧
    (found "/a/b/../c").map Path.route = (found "//a/./b/..//c/").map Path.route ∧
    found "//a/./b/..//c/" = some (.ofText "//a/k") := by
  intro s w found
  have hfile : ∀ p q : Path, p.route = q.route → s.contains p = s.contains q := by
    intro p q h
    change (s.files.lookup p.route).isSome = (s.files.lookup q.route).isSome
    rw [h]
  have hroute : (Path.ofText "/a/b/../c").route = (Path.ofText "//a/./b/..//c/").route := by
    decide +kernel
  exact ⟨hfile, hroute, (findUpwards_walks w _ (.ofText "k")).2 hfile _ hroute, by decide +kernel⟩

end KeywordTable
