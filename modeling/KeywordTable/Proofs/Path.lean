import KeywordTable.Path
import KeywordTable.Proofs.Text
import Mathlib.Data.List.Infix

/-!
# Routes of Joined and Cut Paths

A path keeps the text it was given, and joining and cutting work on that text.
What matters of the result is its route. This module says how routes are joined
and cut, so that nothing after it has to look at slashes and dots.

All of it rests on one equation. A slash divides a text into a part before and a
part after, and the route of the whole is the route of the first part with the
names of the second behind it. How many slashes there are and what dots stand
between them makes no difference, since no name comes from either. The one
exception is a text with nothing before the slash, which is then a root.

Joining puts a slash between two texts if there is none, so it respects routes.
Cutting takes the text up to the end of each name, so the cuts of a path have
the beginnings of its route, one each, and the parent of a path has the route
without its last name.

## Main definitions

* `Route.extend`: A route with more names behind it.
* `Path.namesAfter`: The names in a text that comes after a slash.

## Theorems

* `route_append_slash`: The route of two texts with a slash between them.
* `cases_chars`: The ways in which the text of a path can start.
* `route_absolute`: A route starts where its path does.
* `route_eq_empty_iff`: Only the empty path has the empty route.
* `route_join`: The route of a joined path.
* `route_join_congr`: Joining respects routes.
* `route_join_name`: Joining a name puts it behind the route.
* `map_route_cuts`: The cuts of a path have the beginnings of its route.
* `exists_parent`: The parent of a path has its route without the last name.
-/

namespace KeywordTable

/-- A route with more names behind it. -/
def Route.extend (r : Route) (names : List (List Char)) : Route :=
  { r with names := r.names ++ names }

@[simp] theorem Route.extend_nil (r : Route) : r.extend [] = r := by
  rw [extend, List.append_nil]

theorem Route.extend_extend (r : Route) (xs ys : List (List Char)) :
    (r.extend xs).extend ys = r.extend (xs ++ ys) := by
  simp only [extend, List.append_assoc]

namespace Path

/-- The names in a text that comes after a slash. -/
def namesAfter (cs : List Char) : List (List Char) :=
  (Text.split '/' cs).filter isName

theorem namesAfter_append_slash (a b : List Char) :
    namesAfter (a ++ '/' :: b) = namesAfter a ++ namesAfter b := by
  simp only [namesAfter, Text.split_eq_splitOn, List.splitOn_append_cons_self, List.filter_append]

/-- A text without a slash is one name or none. -/
theorem namesAfter_piece {piece : List Char} (h : '/' ∉ piece) :
    namesAfter piece = [piece].filter isName := by
  rw [namesAfter, Text.split_eq_splitOn, List.splitOn_eq_singleton h]

/-- A slash with nothing before it is the root. -/
theorem route_slash (cs : List Char) :
    route ⟨'/' :: cs⟩ = { absolute := true, names := namesAfter cs } := by
  rw [route, Text.split_cons, if_pos rfl]
  rfl

/-- A text without a slash does not start at the root. -/
theorem isAbsolute_eq_false {piece : List Char} (h : '/' ∉ piece) :
    isAbsolute ⟨piece⟩ = false := by
  rw [isAbsolute, beq_eq_false_iff_ne]
  exact fun hhead => h (List.mem_of_head? hhead)

/-- Where a path starts is told by the start of its text. -/
theorem isAbsolute_append {a : List Char} (ha : a ≠ []) (b : List Char) :
    isAbsolute ⟨a ++ b⟩ = isAbsolute ⟨a⟩ := by
  cases a with
  | nil => exact absurd rfl ha
  | cons c a => rfl

/-- A text without a slash is a name, also if it is a dot. -/
theorem route_piece {piece : List Char} (hne : piece ≠ []) (h : '/' ∉ piece) :
    route ⟨piece⟩ = { absolute := false, names := [piece] } := by
  have hkeep : [piece].filter (· != []) = [piece] := by
    simp only [List.filter_cons, bne_iff_ne, ne_eq, hne, not_false_eq_true, if_true,
      List.filter_nil]
  simp only [route, Text.split_eq_splitOn, List.splitOn_eq_singleton h, isAbsolute_eq_false h,
    Bool.false_eq_true, if_false, hkeep, List.filter_nil, List.append_nil]

/-- A slash divides a route, wherever it stands in the text. -/
theorem route_append_slash {a : List Char} (ha : a ≠ []) (b : List Char) :
    route ⟨a ++ '/' :: b⟩ = (route ⟨a⟩).extend (namesAfter b) := by
  simp only [route, Text.split_eq_splitOn, List.splitOn_append_cons_self, isAbsolute_append ha]
  cases hpieces : a.splitOn '/' with
  | nil => exact absurd hpieces (List.splitOn_ne_nil '/' a)
  | cons first rest =>
      -- The pieces after the slash are judged as they would be on their own.
      by_cases habs : isAbsolute ⟨a⟩ = true
      · simp only [List.cons_append, habs, if_true, List.filter_append, Route.extend, namesAfter,
          Text.split_eq_splitOn]
      · simp only [List.cons_append, habs, Bool.false_eq_true, if_false, List.filter_append,
          Route.extend, namesAfter, Text.split_eq_splitOn, List.append_assoc]

/-- A path is empty, starts at the root, or starts with a name, after which
    comes nothing or a slash. -/
@[elab_as_elim]
theorem cases_chars {motive : List Char → Prop} (empty : motive [])
    (root : ∀ cs, motive ('/' :: cs)) (name : ∀ first, first ≠ [] → '/' ∉ first → motive first)
    (deeper : ∀ first cs, first ≠ [] → '/' ∉ first → motive (first ++ '/' :: cs)) :
    ∀ cs, motive cs := by
  intro cs
  by_cases hslash : '/' ∈ cs
  · obtain ⟨first, rest, rfl, hfirst⟩ := List.eq_append_cons_of_mem hslash
    by_cases hne : first = []
    · rw [hne]
      exact root rest
    · exact deeper first rest hne hfirst
  · by_cases hne : cs = []
    · rw [hne]
      exact empty
    · exact name cs hne hslash

/-- A route starts where its path does. -/
theorem route_absolute (p : Path) : p.route.absolute = p.isAbsolute := by
  obtain ⟨cs⟩ := p
  induction cs using cases_chars with
  | empty => rfl
  | root cs => rw [route_slash]; rfl
  | name first hne hfirst => rw [route_piece hne hfirst, isAbsolute_eq_false hfirst]
  | deeper first cs hne hfirst =>
      rw [route_append_slash hne, Route.extend, route_piece hne hfirst, isAbsolute_append hne,
        isAbsolute_eq_false hfirst]

/-- Only the empty path leads nowhere without starting at the root. -/
theorem route_eq_empty_iff (p : Path) :
    p.route = { absolute := false, names := [] } ↔ p.chars = [] := by
  obtain ⟨cs⟩ := p
  induction cs using cases_chars with
  | empty => exact iff_of_true rfl rfl
  | root cs =>
      rw [route_slash]
      exact iff_of_false (fun h => Bool.false_ne_true (congrArg Route.absolute h).symm)
        (List.cons_ne_nil _ _)
  | name first hne hfirst =>
      rw [route_piece hne hfirst]
      exact iff_of_false (fun h => List.cons_ne_nil _ _ (congrArg Route.names h)) hne
  | deeper first cs hne hfirst =>
      rw [route_append_slash hne, route_piece hne hfirst]
      exact iff_of_false (fun h => List.cons_ne_nil _ _ (congrArg Route.names h))
        (fun h => hne (List.append_eq_nil_iff.mp h).1)

/-- A path that ends in a slash leads where it would without. -/
theorem route_append_singleton_slash {a : List Char} (ha : a ≠ []) :
    route ⟨a ++ ['/']⟩ = route ⟨a⟩ := by
  rw [route_append_slash ha, show namesAfter [] = [] from rfl, Route.extend_nil]

/-- Joining a relative path puts its names behind the route. A dot at its start
    is no longer at the start. -/
theorem route_join {dir p : Path} (hp : p.isAbsolute = false) (hdir : dir.chars ≠ []) :
    (dir.join p).route = dir.route.extend (namesAfter p.chars) := by
  have hrel : ¬ p.isAbsolute = true := by rw [hp]; exact Bool.false_ne_true
  rw [join, if_neg hrel]
  by_cases hslash : dir.chars.getLast? = some '/'
  · rw [if_pos (Or.inr hslash)]
    obtain ⟨a, ha⟩ := List.getLast?_eq_some_iff.mp hslash
    have hdir' : dir = ⟨a ++ ['/']⟩ := congrArg Path.mk ha
    rw [hdir', List.append_assoc, List.singleton_append]
    by_cases hne : a = []
    · rw [hne]
      exact route_slash p.chars
    · rw [route_append_slash hne, route_append_singleton_slash hne]
  · rw [if_neg (not_or.mpr ⟨hdir, hslash⟩)]
    exact route_append_slash hdir p.chars

/-- Joining respects routes. -/
theorem route_join_congr {dir dir' : Path} (h : dir.route = dir'.route) (p : Path) :
    (dir.join p).route = (dir'.join p).route := by
  cases hp : p.isAbsolute with
  | true => rw [join, join, if_pos hp, if_pos hp]
  | false =>
      by_cases hdir : dir.chars = []
      · -- The empty path is alone on its route.
        have hdir' : dir'.chars = [] :=
          (route_eq_empty_iff dir').mp (h.symm.trans ((route_eq_empty_iff dir).mpr hdir))
        rw [show dir = dir' from congrArg Path.mk (hdir.trans hdir'.symm)]
      · have hdir' : dir'.chars ≠ [] := fun hnil =>
          hdir ((route_eq_empty_iff dir).mp (h.trans ((route_eq_empty_iff dir').mpr hnil)))
        rw [route_join hp hdir, route_join hp hdir', h]

/-- Joining a name puts it behind the route. -/
theorem route_join_name (dir : Path) {name : List Char} (hname : isName name = true)
    (hslash : '/' ∉ name) : (dir.join ⟨name⟩).route = dir.route.extend [name] := by
  have hne : name ≠ [] := by
    rintro rfl
    exact absurd hname (by decide)
  have hrel : isAbsolute ⟨name⟩ = false := isAbsolute_eq_false hslash
  by_cases hdir : dir.chars = []
  · rw [(route_eq_empty_iff dir).mpr hdir, join, hrel, if_neg Bool.false_ne_true,
      if_pos (Or.inl hdir), hdir, List.nil_append, route_piece hne hslash]
    rfl
  · rw [route_join hrel hdir, namesAfter_piece hslash, List.filter_cons_of_pos hname,
      List.filter_nil]

/-- The empty beginning comes first. -/
theorem inits_eq_cons (names : List (List Char)) : names.inits = [] :: names.inits.tail := by
  cases names with
  | nil => rfl
  | cons name names => rw [List.inits_cons, List.tail_cons]

/-- The cuts that are made after a text have the beginnings of the names that
    come behind it, the empty beginning apart. -/
theorem map_route_cutsFrom {before : List Char} {pieces : List (List Char)} {r : Route}
    (hbefore : ∀ cs, route ⟨before ++ '/' :: cs⟩ = r.extend (namesAfter cs))
    (hpieces : ∀ piece ∈ pieces, '/' ∉ piece) :
    (cutsFrom before pieces).map route = ((pieces.filter isName).inits.tail).map r.extend := by
  induction pieces generalizing before r with
  | nil => rfl
  | cons piece rest ih =>
      have hpiece := namesAfter_piece (hpieces piece List.mem_cons_self)
      have hcut : route ⟨before ++ '/' :: piece⟩ = r.extend ([piece].filter isName) := by
        rw [hbefore, hpiece]
      have hnext : ∀ cs, route ⟨(before ++ '/' :: piece) ++ '/' :: cs⟩ =
          (r.extend ([piece].filter isName)).extend (namesAfter cs) := by
        intro cs
        rw [List.append_assoc, List.cons_append, hbefore, namesAfter_append_slash, hpiece,
          Route.extend_extend]
      have hrest := ih hnext fun q hq => hpieces q (List.mem_cons_of_mem piece hq)
      rw [cutsFrom]
      by_cases hname : isName piece = true
      · have hkeep : [piece].filter isName = [piece] := by
          rw [List.filter_cons_of_pos hname, List.filter_nil]
        rw [hkeep] at hcut hrest
        rw [if_pos hname, List.map_cons, hcut, hrest, List.filter_cons_of_pos hname,
          List.inits_cons, List.tail_cons, List.map_map, inits_eq_cons (rest.filter isName),
          List.map_cons, List.tail_cons]
        -- Both sides start with the cut after this name.
        congr 1
        refine List.map_congr_left fun names _ => ?_
        rw [Route.extend_extend, List.singleton_append, Function.comp_apply]
      · rw [if_neg hname, hrest, List.filter_cons_of_neg hname, List.filter_cons_of_neg hname,
          List.filter_nil, Route.extend_nil]

/-- The cuts of a path that starts with a name have the beginnings of its
    route. -/
theorem map_route_cuts_of_split {cs first : List Char} {rest : List (List Char)}
    (hne : first ≠ []) (habs : isAbsolute ⟨cs⟩ = false)
    (hsplit : Text.split '/' cs = first :: rest) :
    (cuts ⟨cs⟩).map route = (route ⟨cs⟩).names.inits.map (Route.mk (route ⟨cs⟩).absolute) := by
  have hpieces := Text.not_mem_of_mem_split '/' cs
  rw [hsplit] at hpieces
  have hfirst : '/' ∉ first := hpieces first List.mem_cons_self
  have hkeep : [first].filter (· != []) = [first] :=
    List.filter_cons_of_pos (by rwa [bne_iff_ne])
  have hroute : route ⟨cs⟩ = { absolute := false, names := first :: rest.filter isName } := by
    simp only [route, hsplit, habs, Bool.false_eq_true, if_false, hkeep, List.singleton_append]
  have hcuts : cuts ⟨cs⟩ = ⟨[]⟩ :: ⟨first⟩ :: cutsFrom first rest := by
    simp only [cuts, hsplit, habs, Bool.false_eq_true, if_false, hkeep, List.map_cons,
      List.map_nil, List.cons_append, List.nil_append]
  have hrest := map_route_cutsFrom (route_append_slash hne) fun piece hpiece =>
    hpieces piece (List.mem_cons_of_mem first hpiece)
  have hempty : route ⟨[]⟩ = { absolute := false, names := [] } := rfl
  rw [hcuts, hroute, List.map_cons, List.map_cons, hrest, hempty, route_piece hne hfirst,
    List.inits_cons, List.map_cons, List.map_map, inits_eq_cons (rest.filter isName),
    List.map_cons, List.tail_cons]
  rfl

/-- The cuts of a path have the beginnings of its route, one each. -/
theorem map_route_cuts (p : Path) :
    p.cuts.map route = p.route.names.inits.map (Route.mk p.route.absolute) := by
  obtain ⟨cs⟩ := p
  induction cs using cases_chars with
  | empty => rfl
  | root cs =>
      have hcuts : cuts ⟨'/' :: cs⟩ = ⟨['/']⟩ :: cutsFrom [] (Text.split '/' cs) := by
        rw [cuts, Text.split_cons, if_pos rfl]
        rfl
      have hroot : route ⟨['/']⟩ = { absolute := true, names := [] } := rfl
      rw [hcuts, List.map_cons, hroot, map_route_cutsFrom (r := { absolute := true, names := [] })
        route_slash (Text.not_mem_of_mem_split '/' cs), route_slash, inits_eq_cons (namesAfter cs),
        List.map_cons]
      rfl
  | name first hne hfirst =>
      have hsplit : Text.split '/' first = [first] := by
        rw [Text.split_eq_splitOn, List.splitOn_eq_singleton hfirst]
      exact map_route_cuts_of_split hne (isAbsolute_eq_false hfirst) hsplit
  | deeper first cs hne hfirst =>
      refine map_route_cuts_of_split hne ?_ (Text.split_append_sep '/' first cs hfirst)
      rw [isAbsolute_append hne, isAbsolute_eq_false hfirst]

/-- The longest beginning comes last. -/
theorem inits_concat (names : List (List Char)) (name : List Char) :
    (names ++ [name]).inits = names.inits ++ [names ++ [name]] := by
  rw [List.inits_append]
  rfl

theorem getLast_inits (names : List (List Char)) : names.inits.getLast? = some names := by
  rcases List.eq_nil_or_concat' names with rfl | ⟨names, name, rfl⟩
  · rfl
  · rw [inits_concat, List.getLast?_concat]

/-- A path with a name on its way has a parent, whose route is the same without
    the last name. -/
theorem exists_parent {p : Path} (h : p.route.names ≠ []) :
    ∃ dir, p.parent? = some dir ∧
      dir.route = { absolute := p.route.absolute, names := p.route.names.dropLast } := by
  have hcuts : p.cuts.dropLast.map route =
      p.route.names.dropLast.inits.map (Route.mk p.route.absolute) := by
    rw [List.map_dropLast, map_route_cuts, ← List.map_dropLast]
    congr 1
    rw [← List.dropLast_append_getLast h, inits_concat, List.dropLast_concat,
      List.dropLast_concat]
  have hlast := congrArg List.getLast? hcuts
  rw [List.getLast?_map, List.getLast?_map, getLast_inits] at hlast
  exact Option.map_eq_some_iff.mp hlast

end Path

end KeywordTable
