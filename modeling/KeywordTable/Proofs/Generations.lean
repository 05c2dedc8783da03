import KeywordTable.Proofs.History

/-!
# Generations One After Another

A generation reads one path and writes one path. Its answer is told by what it
reads, and the only text that it changes is the one it writes. So nothing is
to be known of a generation but its two paths to say how it gets along with
others.

If a generation does not write what it reads, then it finds the same input
however often it is done, writes the same text each time, and the files are
after the first time as they stay. Two generations of which neither writes what
the other reads or writes can be done in either order, and each of them may
still write over its own input.

All of this is about routes and not about texts of paths. A generation that
reads and writes one file under two spellings finds its own table as a header
the second time.

## Main definitions

* `Memory.regenerate`: The memory after a generation.

## Theorems

* `Memory.insert_insert`: Placing a text a second time changes nothing.
* `Memory.generate_congr`: The answer of a generation is told by its input.
* `Memory.get_generate`: What a generation does to the texts.
* `Memory.writes_generate`: What a generation does to the count.
* `Memory.files_iterate`: The files stay as they are after the first time.
* `Memory.writes_iterate`: Each time counts if there is an input.
* `Session.gives_repeated`: A session that generates again and again.
* `Session.generate_repeatedly`: Generating again changes nothing but the count.
* `Memory.generate_in_any_order`: Generations that do not meet can change places.
-/

namespace KeywordTable

namespace Memory

/-- A text that is placed takes the place of the one before. -/
theorem insert_insert (m : Memory) (p : Path) (text later : String) :
    ((m.insert p text).insert p later).files = (m.insert p later).files := by
  have hout : ((p.route, text) :: m.files.filter (·.1 != p.route)).filter (·.1 != p.route) =
      m.files.filter (·.1 != p.route) := by
    rw [List.filter_cons_of_neg (by simp only [bne_self_eq_false, Bool.false_eq_true,
      not_false_eq_true]), List.filter_filter]
    simp only [Bool.and_self]
  simp only [insert, hout]

/-- The answer of a generation is told by its input. -/
theorem generate_congr {m m' : Memory} {settings : Settings}
    (h : m.get? settings.input = m'.get? settings.input) :
    (m.generate settings).1 = (m'.generate settings).1 := by
  rw [generate_eq, generate_eq, h]
  cases m'.get? settings.input with
  | none => rfl
  | some source => rfl

/-- A generation changes the text of its output, if it has an input. -/
theorem get_generate (m : Memory) (settings : Settings) (p : Path) :
    (m.generate settings).2.get? p = if p.route = settings.output.route then
      ((m.get? settings.input).map fun source => (settings.render source).2).or (m.get? p)
    else m.get? p := by
  rw [generate_eq]
  cases m.get? settings.input with
  | none => exact (ite_self _).symm
  | some source => exact get_write m settings.output p _

theorem get_generate_of_ne {m : Memory} {settings : Settings} {p : Path}
    (h : p.route ≠ settings.output.route) : (m.generate settings).2.get? p = m.get? p := by
  rw [get_generate, if_neg h]

/-- A generation counts if it has an input. -/
theorem writes_generate (m : Memory) (settings : Settings) :
    (m.generate settings).2.writes =
      m.writes + if (m.get? settings.input).isSome then 1 else 0 := by
  rw [generate_eq]
  cases m.get? settings.input with
  | none => rfl
  | some source => rfl

/-- The memory after a generation. -/
def regenerate (settings : Settings) (m : Memory) : Memory :=
  (m.generate settings).2

section Iterate

variable {settings : Settings} (hpaths : settings.input.route ≠ settings.output.route)
include hpaths

/-- A generation leaves its input for the next. -/
theorem generate_regenerate (m : Memory) :
    ((m.regenerate settings).generate settings).1 = (m.generate settings).1 :=
  generate_congr (get_generate_of_ne hpaths)

/-- A second generation writes what is there. -/
theorem files_regenerate (m : Memory) :
    ((m.regenerate settings).regenerate settings).files = (m.regenerate settings).files := by
  have hinput : (m.regenerate settings).get? settings.input = m.get? settings.input :=
    get_generate_of_ne hpaths
  unfold regenerate at hinput ⊢
  rw [generate_eq (m.generate settings).2, hinput, generate_eq m]
  cases m.get? settings.input with
  | none => rfl
  | some source => exact insert_insert m settings.output _ _

/-- The files stay as they are after the first time. -/
theorem files_iterate (m : Memory) (n : Nat) :
    ((regenerate settings)^[n + 1] m).files = (m.regenerate settings).files := by
  induction n with
  | zero => rfl
  | succ n ih =>
      -- The last time comes after another one, so it changes nothing.
      rw [Function.iterate_succ_apply', Function.iterate_succ_apply', files_regenerate hpaths,
        ← Function.iterate_succ_apply' (regenerate settings), ih]

omit hpaths in
theorem get_iterate_of_ne {p : Path} (h : p.route ≠ settings.output.route) (m : Memory)
    (n : Nat) : ((regenerate settings)^[n] m).get? p = m.get? p := by
  induction n with
  | zero => rfl
  | succ n ih =>
      rw [Function.iterate_succ_apply', regenerate, get_generate_of_ne h, ih]

/-- Each time counts if there is an input at first, since it is there each
    time. -/
theorem writes_iterate (m : Memory) (n : Nat) :
    ((regenerate settings)^[n] m).writes =
      m.writes + if (m.get? settings.input).isSome then n else 0 := by
  induction n with
  | zero => rw [ite_self]; rfl
  | succ n ih =>
      rw [Function.iterate_succ_apply', regenerate, writes_generate, get_iterate_of_ne hpaths, ih]
      cases (m.get? settings.input).isSome with
      | true => rfl
      | false => rfl

end Iterate

end Memory

namespace Session

theorem gives_once (session : Session) (m : Memory) :
    Gives session.generate m (m.generate session.settings).1 (m.regenerate session.settings) := by
  rw [Memory.regenerate, Memory.generate_eq_generateIn]
  exact session.gives_session m

/-- A session that generates again and again gives the same answer each time,
    if it does not write what it reads. -/
theorem gives_repeated (session : Session)
    (hpaths : session.settings.input.route ≠ session.settings.output.route) (m : Memory)
    (n : Nat) :
    Gives ((List.replicate n session).mapM generate) m
      (List.replicate n (m.generate session.settings).1)
      ((Memory.regenerate session.settings)^[n] m) := by
  induction n generalizing m with
  | zero => exact gives_pure [] m
  | succ n ih =>
      have hrest := ih (m.regenerate session.settings)
      rw [Memory.generate_regenerate hpaths] at hrest
      exact gives_mapM_cons (session.gives_once m) hrest

/-- A session whose output is not its input can generate any number of times.
    Each time it gives the same answer, the files are those after the first
    time, and no text changed but that of the output. If the header could be
    read each time counts as a write, and else none does. -/
theorem generate_repeatedly (session : Session) (w : World Memory) (n : Nat) (hn : 1 ≤ n)
    (hpaths : session.settings.input.route ≠ session.settings.output.route) :
    let once := (session.generate : Simulated Memory (Except GenerateError Generated)).run w
    let often := ((List.replicate n session).mapM generate :
      Simulated Memory (List (Except GenerateError Generated))).run w
    often.1 = List.replicate n once.1 ∧
    often.2.store.files = once.2.store.files ∧
    (∀ p : Path, p.route ≠ session.settings.output.route →
      often.2.store.get? p = w.store.get? p) ∧
    ((∃ g, once.1 = .ok g ∧ often.2.store.get? session.settings.output = some g.code ∧
        often.2.store.writes = w.store.writes + n) ∨
      ∃ e, once.1 = .error (.read session.settings.input e) ∧
        often.2.store.writes = w.store.writes) := by
  intro once often
  have hstored : once.1 = (w.store.generate session.settings).1 ∧
      once.2.store = w.store.regenerate session.settings :=
    session.gives_once w.store w rfl
  have hrepeated : often.1 = List.replicate n (w.store.generate session.settings).1 ∧
      often.2.store = (Memory.regenerate session.settings)^[n] w.store :=
    session.gives_repeated hpaths w.store n w rfl
  obtain ⟨k, rfl⟩ : ∃ k, n = k + 1 := ⟨n - 1, by omega⟩
  have hfiles : often.2.store.files = once.2.store.files := by
    rw [hrepeated.2, hstored.2, Memory.files_iterate hpaths]
  have hwrites := Memory.writes_iterate hpaths w.store (k + 1)
  rw [← hrepeated.2] at hwrites
  refine ⟨by rw [hrepeated.1, hstored.1], hfiles, ?_, ?_⟩
  · intro p hp
    rw [hrepeated.2, Memory.get_iterate_of_ne hp]
  · -- What the output has in the end it has after the first time.
    have houtput : often.2.store.get? session.settings.output =
        (w.store.generate session.settings).2.get? session.settings.output := by
      unfold Memory.get?
      rw [hfiles, hstored.2, Memory.regenerate]
    rw [Memory.get_generate, if_pos rfl] at houtput
    rw [hstored.1, Memory.generate_eq]
    cases hinput : w.store.get? session.settings.input with
    | none =>
        rw [hinput] at hwrites
        exact Or.inr ⟨_, rfl, hwrites⟩
    | some source =>
        rw [hinput] at hwrites houtput
        exact Or.inl ⟨_, rfl, houtput, hwrites⟩

/-- A dot at the start of a path counts, so this session writes beside what it
    reads. -/
theorem generate_repeatedly_dotted :
    let session : Session :=
      { settings := { input := .ofText "a//token.h", output := .ofText "./a/token.h" }
        console := ⟨fun _ => false⟩
        measureTime := true }
    let w : World Memory :=
      { store := ({} : Memory).insert (.ofText "a/token.h") "Keyword\nIF, 1\nTEOF\n" }
    session.settings.input.route ≠ session.settings.output.route ∧
    let once := (session.generate : Simulated Memory (Except GenerateError Generated)).run w
    let often := ((List.replicate 3 session).mapM generate :
      Simulated Memory (List (Except GenerateError Generated))).run w
    often.1 = List.replicate 3 once.1 ∧
    often.2.store.files = once.2.store.files ∧
    (∀ p : Path, p.route ≠ session.settings.output.route →
      often.2.store.get? p = w.store.get? p) ∧
    ∃ g, once.1 = .ok g ∧ often.2.store.get? session.settings.output = some g.code ∧
      often.2.store.writes = w.store.writes + 3 := by
  intro session w
  have hroute : session.settings.input.route ≠ session.settings.output.route := by
    decide +kernel
  have hsource : w.store.get? session.settings.input = some "Keyword\nIF, 1\nTEOF\n" := by
    decide +kernel
  -- From here on only what is known of the two counts, and nothing is computed.
  clear_value session w
  refine ⟨hroute, ?_⟩
  intro once often
  obtain ⟨hanswers, hfiles, hothers, hmade | ⟨e, herror, -⟩⟩ :=
    generate_repeatedly session w 3 (by decide) hroute
  · exact ⟨hanswers, hfiles, hothers, hmade⟩
  · -- There is a header to be read.
    have hgiven : once.1 = (w.store.generate session.settings).1 :=
      (session.gives_once w.store w rfl).1
    rw [Memory.generate_eq, hsource] at hgiven
    cases hgiven.symm.trans herror

-- A header under another spelling of the output is replaced by its own table, in which there
-- is no keyword to be found.
example :
    let session : Session :=
      { settings := { input := .ofText "token.h", output := .ofText "token.h/" }
        console := ⟨fun _ => false⟩ }
    let w : World Memory :=
      { store := ({} : Memory).insert (.ofText "token.h") "Keyword\nIF, 1\nTEOF\n" }
    let twice := ((List.replicate 2 session).mapM generate :
      Simulated Memory (List (Except GenerateError Generated))).run w
    twice.1.map (fun answer => answer.toOption.map (·.words.length)) = [some 1, some 0] := by
  decide +kernel

end Session

namespace Memory

/-- Two generations of which neither writes what the other reads or writes can
    change places. Each gives the same answer, and the texts and the count are
    the same in the end, whether they succeed or fail. -/
theorem generate_in_any_order (m : Memory) (first second : Settings)
    (hread : first.output.route ≠ second.input.route)
    (hwrite : first.output.route ≠ second.output.route)
    (hread' : second.output.route ≠ first.input.route) :
    let forth := (m.generate first).2.generate second
    let back := (m.generate second).2.generate first
    (m.generate first).1 = back.1 ∧
    forth.1 = (m.generate second).1 ∧
    (∀ p : Path, forth.2.get? p = back.2.get? p) ∧
    forth.2.writes = back.2.writes := by
  intro forth back
  have hfirst : (m.generate second).2.get? first.input = m.get? first.input :=
    get_generate_of_ne hread'.symm
  have hsecond : (m.generate first).2.get? second.input = m.get? second.input :=
    get_generate_of_ne hread.symm
  refine ⟨generate_congr hfirst.symm, generate_congr hsecond, ?_, ?_⟩
  · intro p
    simp only [forth, back, get_generate, hfirst, hsecond]
    -- No path leads to both outputs, so at most one of them is in question.
    by_cases hp : p.route = first.output.route
    · simp only [hp, hwrite, if_true, if_false]
    · simp only [hp, if_false]
  · simp only [forth, back, writes_generate, hfirst, hsecond]
    exact Nat.add_right_comm _ _ _

/-- One of the two writes over its own input, and the other has none. -/
theorem generate_in_any_order_overwriting :
    let m := ({} : Memory).insert (.ofText "a") "Keyword\nIF, 1\nTEOF\n"
    let first : Settings := { input := .ofText "a", output := .ofText "a/." }
    let second : Settings := { input := .ofText "b", output := .ofText "./a" }
    first.output.route ≠ second.input.route ∧
    first.output.route ≠ second.output.route ∧
    second.output.route ≠ first.input.route ∧
    (m.generate first).1 = ((m.generate second).2.generate first).1 ∧
    ((m.generate first).2.generate second).1 = (m.generate second).1 ∧
    (∀ p : Path, ((m.generate first).2.generate second).2.get? p =
      ((m.generate second).2.generate first).2.get? p) ∧
    ((m.generate first).2.generate second).2.writes =
      ((m.generate second).2.generate first).2.writes := by
  intro m first second
  have hread : first.output.route ≠ second.input.route := by decide +kernel
  have hwrite : first.output.route ≠ second.output.route := by decide +kernel
  have hread' : second.output.route ≠ first.input.route := by decide +kernel
  exact ⟨hread, hwrite, hread', generate_in_any_order m first second hread hwrite hread'⟩

end Memory

end KeywordTable
