import KeywordTable.Proofs.Path
import KeywordTable.Store.Disk
import KeywordTable.Store.Memory

/-!
# What Storing Does

Both kinds of store keep a list of pairs, and storing puts a pair in front after
taking out what was there under its key. Read with `List.lookup` that is a map
with one value changed, and `lookup_replace` says so for both.

On a disk there is more to it, since a path has to be followed before anything
is found, and writing a file changes the disk that paths are followed on. What
saves the day is that every place on a way has to be a directory, while a file
is written only where there is none. So no way that could be gone before is lost,
and a path that a file was written under leads to that file.

Different paths can lead to one file. Following a path, a dot stays where it is
if it can be passed at all, so two paths with one route that both lead to a file
lead to the same.

## Main definitions

* `Disk.bytes?`: The bytes of a file.

## Theorems

* `lookup_replace`: Storing changes one value.
* `Memory.get_insert`, `Memory.get_write`: Reading what was stored in memory.
* `Disk.node_put`: Putting a node changes one place.
* `Disk.toOption_load`: The text of a file is made of its bytes.
* `Disk.find_eq_file_iff`: What it takes for a path to lead to a file.
* `Disk.target_eq_ok`: What it takes for a file to be written.
* `Disk.follow_put`: Writing a file leaves every way open.
* `Disk.find_put_target`: A path leads to the file that was written under it.
* `Disk.bytes_congr`: Paths with one route lead to one file.
* `Disk.names_ne_nil_of_bytes`: A path to a file has a name on its way.
-/

namespace KeywordTable

/-- A pair that is put in front, with what was under its key taken out, changes
    the value of that key only. -/
theorem lookup_replace {κ ν : Type} [BEq κ] [LawfulBEq κ] (l : List (κ × ν)) (k k' : κ) (v : ν) :
    ((k, v) :: l.filter (·.1 != k)).lookup k' = if k' == k then some v else l.lookup k' := by
  rw [List.lookup_cons]
  cases hk : k' == k with
  | true => rfl
  | false =>
      simp only [Bool.false_eq_true, if_false]
      induction l with
      | nil => rfl
      | cons e l ih =>
          obtain ⟨k₀, v₀⟩ := e
          cases hk₀ : k₀ == k with
          | true =>
              -- What is taken out is not what is looked for.
              have hne : (k' == k₀) = false := by rw [beq_iff_eq.mp hk₀, hk]
              rw [List.filter_cons_of_neg (by simp only [bne, hk₀, Bool.not_true,
                Bool.false_eq_true, not_false_eq_true]), List.lookup_cons, hne, ih]
          | false =>
              rw [List.filter_cons_of_pos (by simp only [bne, hk₀, Bool.not_false]),
                List.lookup_cons, List.lookup_cons, ih]

/-- A computation that succeeds has succeeded in its first part. -/
theorem exists_of_bind_eq_ok {ε α β : Type} {x : Except ε α} {f : α → Except ε β} {b : β}
    (h : x >>= f = .ok b) : ∃ a, x = .ok a ∧ f a = .ok b := by
  cases x with
  | error e => exact absurd h (by simp only [bind, Except.bind, reduceCtorEq, not_false_eq_true])
  | ok a => exact ⟨a, rfl, h⟩

namespace Memory

/-- A text that is placed is found under every path with the same route, and
    nothing else changes. -/
theorem get_insert (m : Memory) (p q : Path) (text : String) :
    (m.insert p text).get? q = if q.route = p.route then some text else m.get? q := by
  simp only [get?, insert, lookup_replace, beq_iff_eq]

theorem get_write (m : Memory) (p q : Path) (text : String) :
    (m.write p text).get? q = if q.route = p.route then some text else m.get? q :=
  get_insert m p q text

end Memory

namespace Disk

/-- The bytes of a file, if the path leads to one. -/
def bytes? (d : Disk) (p : Path) : Option ByteArray :=
  match d.find p with
  | .ok (.file bytes) => some bytes
  | _ => none

theorem bytes_eq_some_iff {d : Disk} {p : Path} {bytes : ByteArray} :
    d.bytes? p = some bytes ↔ d.find p = .ok (.file bytes) := by
  unfold bytes?
  split
  · next b hfind => rw [hfind, Option.some.injEq, Except.ok.injEq, DiskNode.file.injEq]
  · next hfind =>
      exact iff_of_false (by simp only [reduceCtorEq, not_false_eq_true]) (hfind bytes)

theorem isFile_eq (d : Disk) (p : Path) : d.isFile p = (d.bytes? p).isSome := by
  unfold isFile bytes?
  cases d.find p with
  | error fault => rfl
  | ok node => cases node <;> rfl

/-- What loading a file gives is told by its bytes. -/
theorem load_congr {d d' : Disk} {p : Path} {bytes : ByteArray} (h : d.bytes? p = some bytes)
    (h' : d'.bytes? p = some bytes) : d.load p = d'.load p := by
  unfold load
  rw [bytes_eq_some_iff.mp h, bytes_eq_some_iff.mp h']

/-- The text of a file is what its bytes spell. -/
theorem toOption_load (d : Disk) (p : Path) :
    (d.load p).toOption = (d.bytes? p).bind String.fromUTF8? := by
  unfold load bytes?
  cases d.find p with
  | error fault => rfl
  | ok node =>
      cases node with
      | directory => rfl
      | file bytes =>
          simp only [Option.bind_some]
          cases String.fromUTF8? bytes <;> rfl

theorem load_eq_ok_iff {d : Disk} {p : Path} {text : String} :
    d.load p = .ok text ↔
      ∃ bytes, d.bytes? p = some bytes ∧ String.fromUTF8? bytes = some text := by
  rw [← Option.bind_eq_some_iff, ← toOption_load]
  cases d.load p with
  | error e => exact iff_of_false (fun h => nomatch h) (fun h => nomatch h)
  | ok text' => rw [Except.toOption, Except.ok.injEq, Option.some.injEq]

/-- Putting a node changes one place. The root is not among the places that are
    kept. -/
theorem node_put (d : Disk) {place : Place} (hplace : place ≠ []) (node : DiskNode) (q : Place) :
    (d.put place node).node? q = if q = place then some node else d.node? q := by
  by_cases hq : q = []
  · rw [node?, if_pos hq, hq, if_neg fun h => hplace h.symm]
    rfl
  · rw [node?, if_neg hq, node?, if_neg hq]
    simp only [put, lookup_replace, beq_iff_eq]

/-- A name can be followed from a directory only. -/
theorem directory_of_step {d : Disk} {place next : Place} {name : List Char}
    (h : d.step place name = .ok next) : d.node? place = some .directory := by
  unfold step at h
  split at h
  · exact absurd h (by simp only [reduceCtorEq, not_false_eq_true])
  · exact absurd h (by simp only [reduceCtorEq, not_false_eq_true])
  · next hnode => exact hnode

/-- A name other than dots leads further in. -/
theorem eq_cons_of_step {d : Disk} {place next : Place} {name : List Char}
    (h : d.step place name = .ok next) (hdot : name ≠ ['.']) (hdots : name ≠ ['.', '.']) :
    next = name :: place := by
  unfold step at h
  rw [directory_of_step h] at h
  simp only [if_neg hdot, if_neg hdots] at h
  split at h
  · exact nomatch h
  · exact (Except.ok.inj h).symm

/-- Following names takes a first step and goes on from there. -/
theorem follow_cons (d : Disk) (place : Place) (name : List Char) (names : List (List Char)) :
    d.follow place (name :: names) = d.step place name >>= fun next => d.follow next names := by
  rw [follow, List.foldlM_cons]
  rfl

theorem follow_concat (d : Disk) (place : Place) (names : List (List Char)) (last : List Char) :
    d.follow place (names ++ [last]) = d.follow place names >>= fun dir => d.step dir last := by
  rw [follow, List.foldlM_append]
  simp only [List.foldlM_cons, List.foldlM_nil, bind_pure]
  rfl

/-- A path leads to a file if it can be followed, does not end in a slash, and
    there is a file. -/
theorem find_eq_file_iff {d : Disk} {p : Path} {bytes : ByteArray} :
    d.find p = .ok (.file bytes) ↔ refuse? p = none ∧ endsInSlash p = false ∧
      ∃ place, d.follow (d.start p) (names p) = .ok place ∧ d.node? place = some (.file bytes) := by
  unfold find
  cases refuse? p with
  | some fault => exact iff_of_false (fun h => nomatch h) (fun h => nomatch h.1)
  | none =>
      cases d.follow (d.start p) (names p) with
      | error fault => exact iff_of_false (fun h => nomatch h) (fun ⟨_, _, _, h, _⟩ => nomatch h)
      | ok place =>
          simp only [bind, Except.bind, Except.ok.injEq, exists_eq_left', true_and]
          cases d.node? place with
          | none => exact iff_of_false (fun h => nomatch h) (fun h => nomatch h.2)
          | some node =>
              cases node with
              | directory => exact iff_of_false (fun h => nomatch h) (fun h => nomatch h.2)
              | file found =>
                  cases endsInSlash p with
                  | true => exact iff_of_false (fun h => nomatch h) (fun h => nomatch h.1)
                  | false =>
                      simp only [Bool.false_eq_true, if_false, pure, Except.pure, Except.ok.injEq,
                        Option.some.injEq, true_and]

/-- A file is written where a path can be followed to and no directory is, in a
    directory. -/
theorem target_eq_ok {d : Disk} {p : Path} {place : Place} (h : d.target p = .ok place) :
    refuse? p = none ∧ endsInSlash p = false ∧ d.follow (d.start p) (names p) = .ok place ∧
      d.node? place ≠ some .directory ∧ place ≠ [] ∧ d.node? place.tail = some .directory := by
  unfold target at h
  cases hrefuse : refuse? p with
  | some fault =>
      rw [hrefuse] at h
      exact nomatch h
  | none =>
      rw [hrefuse] at h
      cases hlast : (names p).getLast? with
      | none =>
          rw [hlast] at h
          exact nomatch h
      | some last =>
          rw [hlast] at h
          obtain ⟨dir, hdir, h⟩ := exists_of_bind_eq_ok h
          by_cases hend : last = ['.'] ∨ last = ['.', '.'] ∨ endsInSlash p = true
          · -- Such an end is refused, whatever the directory.
            simp only [if_pos hend] at h
            obtain ⟨_, h, _⟩ := exists_of_bind_eq_ok h
            obtain ⟨_, _, h⟩ := exists_of_bind_eq_ok h
            exact nomatch h
          · simp only [if_neg hend] at h
            rw [not_or, not_or, Bool.not_eq_true] at hend
            obtain ⟨found, hstep, h⟩ := exists_of_bind_eq_ok h
            have hfound : d.node? found ≠ some .directory ∧ found = place := by
              split at h
              · exact nomatch h
              · next hnode => exact ⟨hnode, Except.ok.inj h⟩
            obtain ⟨hnode, rfl⟩ := hfound
            have hnames : names p = (names p).dropLast ++ [last] :=
              (List.dropLast_append_getLast? last hlast).symm
            have hplace := eq_cons_of_step hstep hend.1 hend.2.1
            refine ⟨rfl, hend.2.2, ?_, hnode, ?_, ?_⟩
            · rw [hnames, follow_concat, hdir]
              exact hstep
            · rw [hplace]
              exact List.cons_ne_nil last dir
            · rw [hplace, List.tail_cons]
              exact directory_of_step hstep

/-- Writing a file leaves every way open that could be gone before, since the
    places on a way are directories. -/
theorem follow_put {d : Disk} {place : Place} {bytes : ByteArray} (hne : place ≠ [])
    (hplace : d.node? place ≠ some .directory) {start r : Place} {names : List (List Char)}
    (h : d.follow start names = .ok r) :
    (d.put place (.file bytes)).follow start names = .ok r := by
  induction names generalizing start with
  | nil => exact h
  | cons name names ih =>
      rw [follow_cons] at h ⊢
      obtain ⟨next, hstep, h⟩ := exists_of_bind_eq_ok h
      have hnode := directory_of_step hstep
      have hother : start ≠ place := by
        rintro rfl
        exact hplace hnode
      have hstep' : (d.put place (.file bytes)).step start name = .ok next := by
        unfold step at hstep ⊢
        rw [node_put d hne, if_neg hother]
        exact hstep
      rw [hstep']
      exact ih h

/-- A path leads to the file that was written under it. -/
theorem find_put_target {d : Disk} {p : Path} {place : Place} (h : d.target p = .ok place)
    (bytes : ByteArray) : (d.put place (.file bytes)).find p = .ok (.file bytes) := by
  obtain ⟨hrefuse, hslash, hfollow, hnode, hne, -⟩ := target_eq_ok h
  refine find_eq_file_iff.mpr ⟨hrefuse, hslash, place, follow_put hne hnode hfollow, ?_⟩
  rw [node_put d hne, if_pos rfl]

/-- A dot that can be passed leads nowhere. -/
theorem follow_filter_dot {d : Disk} {place r : Place} {names : List (List Char)}
    (h : d.follow place names = .ok r) : d.follow place (names.filter (· != ['.'])) = .ok r := by
  induction names generalizing place with
  | nil => exact h
  | cons name names ih =>
      rw [follow_cons] at h
      obtain ⟨next, hstep, h⟩ := exists_of_bind_eq_ok h
      by_cases hdot : name = ['.']
      · have hnext : next = place := by
          unfold step at hstep
          rw [directory_of_step hstep] at hstep
          simp only [if_pos hdot] at hstep
          exact (Except.ok.inj hstep).symm
        rw [List.filter_cons_of_neg (by simp only [hdot, bne_self_eq_false, Bool.false_eq_true,
          not_false_eq_true]), ← hnext]
        exact ih h
      · rw [List.filter_cons_of_pos (by rwa [bne_iff_ne]), follow_cons, hstep]
        exact ih h

/-- Dots apart, the names to be followed are those of the route. -/
theorem filter_names (p : Path) :
    (names p).filter (· != ['.']) = p.route.names.filter (· != ['.']) := by
  have hnames : ∀ cs, ((Text.split '/' cs).filter (· != [])).filter (· != ['.']) =
      Path.namesAfter cs := by
    intro cs
    rw [List.filter_filter, Path.namesAfter]
    exact List.filter_congr fun piece _ => Bool.and_comm _ _
  have hdots : ∀ cs, (Path.namesAfter cs).filter (· != ['.']) = Path.namesAfter cs := by
    intro cs
    rw [← hnames cs, List.filter_filter]
    simp only [Bool.and_self]
  have hpiece : ∀ piece, piece ≠ [] → '/' ∉ piece →
      Path.namesAfter piece = [piece].filter (· != ['.']) := by
    intro piece hne hslash
    rw [Path.namesAfter_piece hslash]
    refine List.filter_congr fun q hq => ?_
    rw [List.mem_singleton.mp hq, Path.isName, bne_iff_ne.mpr hne, Bool.true_and]
  -- A route is made from the first name on, so the text is split there.
  obtain ⟨cs⟩ := p
  rw [names, hnames]
  induction cs using Path.cases_chars with
  | empty => rfl
  | root cs =>
      rw [Path.route_slash, hdots]
      exact Path.namesAfter_append_slash [] cs
  | name first hne hfirst =>
      rw [Path.route_piece hne hfirst]
      exact hpiece first hne hfirst
  | deeper first cs hne hfirst =>
      rw [Path.namesAfter_append_slash, Path.route_append_slash hne, Path.route_piece hne hfirst,
        Route.extend, List.filter_append, hdots, hpiece first hne hfirst]

/-- Where a path leads is told by its route, if it can be followed. -/
theorem follow_route {d : Disk} {p : Path} {place : Place}
    (h : d.follow (d.start p) (names p) = .ok place) :
    d.follow (if p.route.absolute then [] else d.cwd) (p.route.names.filter (· != ['.'])) =
      .ok place := by
  rw [← filter_names, Path.route_absolute]
  exact follow_filter_dot h

/-- Paths with one route that lead to a file lead to the same file. -/
theorem bytes_congr {d : Disk} {p q : Path} {bytes bytes' : ByteArray} (h : p.route = q.route)
    (hp : d.bytes? p = some bytes) (hq : d.bytes? q = some bytes') : bytes = bytes' := by
  obtain ⟨-, -, place, hfollow, hnode⟩ := find_eq_file_iff.mp (bytes_eq_some_iff.mp hp)
  obtain ⟨-, -, place', hfollow', hnode'⟩ := find_eq_file_iff.mp (bytes_eq_some_iff.mp hq)
  have hsame : place = place' := by
    have hroute := follow_route hfollow
    rw [h, follow_route hfollow'] at hroute
    exact (Except.ok.inj hroute).symm
  rw [hsame, hnode'] at hnode
  exact (DiskNode.file.inj (Option.some.inj hnode)).symm

/-- A path to a file has a name on its way, since the root is a directory and
    the empty path leads nowhere. -/
theorem names_ne_nil_of_bytes {d : Disk} {p : Path} {bytes : ByteArray}
    (h : d.bytes? p = some bytes) : p.route.names ≠ [] := by
  obtain ⟨hrefuse, -, place, hfollow, hnode⟩ := find_eq_file_iff.mp (bytes_eq_some_iff.mp h)
  intro hnames
  cases habs : p.route.absolute with
  | false =>
      have hempty : p.chars = [] := (Path.route_eq_empty_iff p).mp (by rw [← habs, ← hnames])
      have hnull : '\x00' ∉ p.chars := by rw [hempty]; exact List.not_mem_nil
      rw [refuse?, if_neg hnull, if_pos hempty] at hrefuse
      exact nomatch hrefuse
  | true =>
      have hroot := follow_route hfollow
      rw [habs, hnames, if_pos rfl] at hroot
      have hplace : [] = place := Except.ok.inj hroot
      rw [← hplace] at hnode
      exact nomatch hnode

end Disk

end KeywordTable
