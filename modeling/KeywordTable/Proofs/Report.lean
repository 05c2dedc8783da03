import KeywordTable.Proofs.Generations
import KeywordTable.Proofs.Plain
import KeywordTable.Proofs.Table

/-!
# What a Session Reports

What the two streams have on them after a session has generated some number of
times and shown each table. On a console without colours that is exactly the
tables on the one stream and a line for each of them on the other, and nothing
of a generation that fails.

Three things have to come together. A generation itself is silent, so all that
is printed is the line and the table. Both are clean if the header, the template
and the path of the output are, since a table is made of these and lowering a
word writes no control; and what is clean is shown as it is. Last, all of this
is kept from one generation to the next. A session may read what it has
written, so the texts that are stored have to stay clean, and the streams have
to stay outside any sequence.

## Main definitions

* `Template.IsClean`: The names that can be chosen have no controls.
* `Silent`: A run prints nothing.
* `Session.line`: The line that tells of a table.
* `Does`: A run in a world gives an answer and leaves another world.
* `Session.afterRounds`: A session after some rounds of `generateShown`.
* `Session.Reports`: What one round does to the files and the streams.
* `Session.Ready`: What has to hold before a round.

## Theorems

* `Settings.isClean_render`: A clean header makes a clean table.
* `silent_generate`: A generation is silent.
* `Session.plainLine_summary`: The summary of a table makes the line that tells of it.
* `Session.does_generateShown_ok`, `Session.does_generateShown_error`: What a round prints.
* `Session.reports_generateShown`: One round, and what it keeps.
* `Session.texts_afterRounds`: The streams have what the rounds have reported.
* `Session.reports_rounds`: Any number of rounds.
-/

namespace KeywordTable

open Terminal (Console Environment IsClean isClean_append Shows shows_clean shows_statusLine
  plainLine statusLine Printed)

/-! ### Clean tables -/

/-- A word of a header has only characters of the header. -/
theorem Markers.mem_of_mem_words {markers : Markers} {source : String} {word : Word} {c : Char}
    (h : word ∈ markers.words source) (hc : c ∈ word.chars) : c ∈ source.toList := by
  rcases exists_line_of_mem_words h with ⟨line, hline, hword⟩
  exact Text.mem_of_mem_lines hline (Word.mem_of_mem_ofLine hword hc)

/-- The key of a clean word is clean, since lowering writes no control. -/
theorem Word.isClean_key {word : Word} (h : IsClean word.chars) : IsClean word.key.toList := by
  rw [toList_key]
  intro c hc hcontrol
  rcases Text.mem_lower hc with hold | hnew
  · exact h c hold hcontrol
  · unfold Text.IsLowered at hnew
    omega

theorem Word.isClean_entries {words : List Word} (h : ∀ word ∈ words, IsClean word.chars) :
    IsClean (Word.entries words).toList := by
  rw [entries, String.toList_join, List.flatMap_map]
  intro c hc
  rcases List.mem_flatMap.mp hc with ⟨word, hword, hc⟩
  have hentry : IsClean word.entry.toList := by
    simp only [entry, String.toList_append, isClean_append, toList_text]
    exact ⟨⟨⟨⟨by decide, isClean_key (h word hword)⟩, by decide⟩, h word hword⟩, by decide⟩
  exact hentry c hc

/-- The names that can be chosen have no controls but white space. -/
structure Template.IsClean (template : Template) : Prop where
  header : Terminal.IsClean template.header.toList
  enumType : Terminal.IsClean template.enumType.toList
  tableName : Terminal.IsClean template.tableName.toList

/-- Clean words in a clean template make a clean table. -/
theorem Template.isClean_table {template : Template} (htemplate : template.IsClean)
    {words : List Word} (hwords : ∀ word ∈ words, Terminal.IsClean word.chars) :
    Terminal.IsClean (template.table words).toList := by
  have hentries := Word.isClean_entries hwords
  have hlines : ∀ line ∈ (template.frame (Word.entries words)).map String.toList,
      Terminal.IsClean line := by
    simp only [frame, List.map_cons, List.map_nil, List.forall_mem_cons, String.toList_append,
      isClean_append, htemplate.header, htemplate.enumType, htemplate.tableName, hentries]
    decide
  rw [table_eq]
  intro c hc
  rcases List.mem_flatMap.mp hc with ⟨line, hline, hc⟩
  exact isClean_append.mpr ⟨hlines line hline, by decide⟩ c hc

/-- A clean header makes a clean table. -/
theorem Settings.isClean_render {settings : Settings} (htemplate : settings.template.IsClean)
    {source : String} (hsource : IsClean source.toList) :
    IsClean (settings.render source).2.toList :=
  Template.isClean_table htemplate fun _ hword =>
    hsource.mono fun _ hc => Markers.mem_of_mem_words hword hc

/-! ### Silent runs -/

section Silent

variable {σ α β : Type}

/-- The run prints nothing, whatever the world. -/
def Silent (act : Simulated σ α) : Prop :=
  ∀ w : World σ, (act.run w).2.out = w.out ∧ (act.run w).2.err = w.err

theorem silent_pure (a : α) : Silent (pure a : Simulated σ α) :=
  fun _ => ⟨rfl, rfl⟩

theorem silent_bind {act : Simulated σ α} {k : α → Simulated σ β} (h : Silent act)
    (hk : ∀ a, Silent (k a)) : Silent (act >>= k) := by
  intro w
  have hrun : (act >>= k).run w = (k (act.run w).1).run (act.run w).2 := rfl
  rcases h w with ⟨hout, herr⟩
  rcases hk (act.run w).1 (act.run w).2 with ⟨hout', herr'⟩
  rw [hrun]
  exact ⟨hout'.trans hout, herr'.trans herr⟩

variable [FileStore σ]

theorem silent_read (p : Path) : Silent (Host.read p : Simulated σ _) :=
  fun _ => ⟨rfl, rfl⟩

theorem silent_log (event : Event) : Silent (Host.log event : Simulated σ Unit) :=
  fun _ => ⟨rfl, rfl⟩

theorem silent_logs (events : List Event) : Silent (events.forM Host.log : Simulated σ Unit) := by
  induction events with
  | nil => exact silent_pure ()
  | cons event events ih => exact silent_bind (silent_log event) fun _ => ih

theorem silent_write (p : Path) (text : String) : Silent (Host.write p text : Simulated σ _) := by
  intro w
  simp only [Host.write, StateT.run_bind, StateT.run_get, pure_bind, World.addEvents]
  cases FileStore.write w.store p text with
  | ok s => exact ⟨rfl, rfl⟩
  | error e => exact ⟨rfl, rfl⟩

theorem silent_renderLogged (settings : Settings) (source : String) :
    Silent (settings.renderLogged source : Simulated σ _) :=
  silent_bind (silent_logs _) fun _ => silent_bind (silent_log _) fun _ =>
    silent_bind (silent_log _) fun _ => silent_pure _

/-- A generation is silent. Whoever asked for it has to tell. -/
theorem silent_generate (settings : Settings) :
    Silent (KeywordTable.generate settings : Simulated σ _) := by
  refine silent_bind (silent_read settings.input) fun answer => ?_
  cases answer with
  | error e => exact silent_pure _
  | ok source =>
      refine silent_bind (silent_renderLogged settings source) fun made => ?_
      refine silent_bind (silent_write settings.output made.2) fun written => ?_
      cases written with
      | error e => exact silent_pure _
      | ok _ => exact silent_bind (silent_log _) fun _ => silent_pure _

end Silent

/-! ### Rounds -/

namespace Session

/-- The line that tells of a table with so many entries. -/
def line (session : Session) (count : Nat) : String :=
  "    Generated " ++ toString count ++ (if count = 1 then " keyword" else " keywords") ++ " into "
    ++ session.settings.output.text ++ "\n"

/-- The summary of a table makes the line that tells of it. -/
theorem plainLine_summary (session : Session) {g : Generated}
    (houtput : g.output = session.settings.output) :
    plainLine "Generated" (some g.summary) true = session.line g.words.length := by
  have hstatus : Terminal.alignRight Terminal.statusWidth "Generated" = "    Generated" := by
    decide
  have hblank : "    Generated " = "    Generated" ++ " " := by decide
  have hnoun : (if g.words.length = 1 then " keyword" else " keywords") =
      " " ++ plural g.words.length "keyword" "keywords" := by
    unfold plural
    by_cases hone : g.words.length = 1
    · rw [if_pos hone, if_pos hone]
      decide
    · rw [if_neg hone, if_neg hone]
      decide
  unfold plainLine line Generated.summary
  rw [if_pos rfl, hstatus, hblank, hnoun, houtput]
  simp only [Option.elim_some, String.append_assoc]

theorem isClean_summary {g : Generated} (houtput : IsClean g.output.chars) :
    IsClean g.summary.toList := by
  have hdigits : IsClean (toString g.words.length).toList := by
    intro c hc hcontrol
    rw [Nat.toString_eq_repr, Nat.toList_repr] at hc
    have hdigit := Nat.isDigit_of_mem_toDigits (by decide) (by decide) hc
    rw [Char.isDigit_iff_toNat] at hdigit
    have hzero : '0'.toNat = 0x30 := by decide
    have hnine : '9'.toNat = 0x39 := by decide
    omega
  have hnoun : IsClean (plural g.words.length "keyword" "keywords").toList := by
    unfold plural
    by_cases hone : g.words.length = 1
    · rw [if_pos hone]
      decide
    · rw [if_neg hone]
      decide
  simp only [Generated.summary, Path.text, String.toList_append, isClean_append,
    String.toList_ofList]
  exact ⟨⟨⟨⟨hdigits, by decide⟩, hnoun⟩, by decide⟩, houtput⟩

end Session

/-! ### What is printed -/

section Does

variable {σ α β : Type}

/-- In the world `w` the run gives the answer `a` and leaves the world `w'`. -/
def Does (act : Simulated σ α) (w : World σ) (a : α) (w' : World σ) : Prop :=
  act.run w = (a, w')

theorem does_pure (a : α) (w : World σ) : Does (pure a) w a w := rfl

theorem does_bind {act : Simulated σ α} {k : α → Simulated σ β} {w w' w'' : World σ} {a : α}
    {b : β} (h : Does act w a w') (hk : Does (k a) w' b w'') : Does (act >>= k) w b w'' := by
  have hrun : (act >>= k).run w = (k (act.run w).1).run (act.run w).2 := rfl
  unfold Does at h
  rw [Does, hrun, h]
  exact hk

variable [FileStore σ]

theorem does_print (console : Console) (stream : Stream) (text : String) (w : World σ) :
    Does (console.print stream text) w () (w.print stream (console.colored stream) text) := rfl

theorem does_timed {act : Simulated σ α} {w w' : World σ} {a : α} (h : Does act w a w') :
    Does (Host.timed act) w (a, 0) w' :=
  does_bind h (does_pure _ _)

namespace Session

variable {session : Session} {w w' : World σ}

/-- A generation that fails is not spoken of. -/
theorem does_generateShown_error {e : GenerateError}
    (h : Does (KeywordTable.generate session.settings) w (.error e) w') :
    Does session.generateShown w (.error e) w' := by
  have hannounce : Does session.announce w (.error e) w' := does_bind h (does_pure _ _)
  have hgenerate : Does session.generate w (.error e) w' :=
    does_bind (does_timed hannounce) (does_pure _ _)
  exact does_bind hgenerate (does_pure _ _)

/-- A generation that succeeds is told on one stream and shown on the other. -/
theorem does_generateShown_ok (htime : session.measureTime = false) {g : Generated}
    (h : Does (KeywordTable.generate session.settings) w (.ok g) w') :
    Does session.generateShown w (.ok g)
      ((w'.print .err (session.console.colored .err)
          (statusLine .header "Generated" (some g.summary) true)).print
        .out (session.console.colored .out) g.code) := by
  have hannounce : Does session.announce w (.ok g)
      (w'.print .err (session.console.colored .err)
        (statusLine .header "Generated" (some g.summary) true)) :=
    does_bind h (does_bind (does_print session.console .err _ _) (does_pure _ _))
  have hgenerate : Does session.generate w (.ok g)
      (w'.print .err (session.console.colored .err)
        (statusLine .header "Generated" (some g.summary) true)) := by
    refine does_bind (does_timed hannounce) ?_
    -- How long it took is not told.
    simp only [htime]
    exact does_pure _ _
  exact does_bind hgenerate (does_bind (does_print session.console .out _ _) (does_pure _ _))

end Session

end Does

namespace Session

/-- A session that has generated some number of times, and has told of each
    table and shown it: the answers, and the world. -/
def afterRounds (session : Session) (m : Memory) (n : Nat) :
    List (Except GenerateError Generated) × World Memory :=
  ((List.replicate n session).mapM generateShown : Simulated Memory _).run { store := m }

/-- What one round does to the files and to the streams. If there is a table it
    is that of the header, it is stored and counted, it is shown, and the line
    for as many entries as it has is told. The text itself has that number: it
    has two commas for each entry more than a table without any. If there is no
    table, nothing happens. -/
def Reports (session : Session) (w w' : World Memory) : Except GenerateError Generated → Prop
  | .ok g =>
    (w.store.get? session.settings.input).map session.settings.markers.words = some g.words ∧
    g.code = session.settings.template.table g.words ∧
    g.code.toList.count ',' =
      (session.settings.template.table []).toList.count ',' + 2 * g.words.length ∧
    w'.store.get? session.settings.output = some g.code ∧
    w'.store.writes = w.store.writes + 1 ∧
    w'.out.text = w.out.text ++ g.code ∧
    w'.err.text = w.err.text ++ session.line g.words.length
  | .error _ =>
    w.store.get? session.settings.input = none ∧
    w'.store = w.store ∧
    w'.out.text = w.out.text ∧
    w'.err.text = w.err.text

/-- What has to hold before a round and holds after it: the texts are clean, and
    no sequence has begun on a stream. -/
structure Ready (w : World Memory) : Prop where
  clean : ∀ p text, w.store.get? p = some text → IsClean text.toList
  out_ground : w.out.state = .ground
  err_ground : w.err.state = .ground

/-- A generation in a world of files in memory. -/
theorem exists_does_generate (settings : Settings) (w : World Memory) :
    ∃ w', Does (KeywordTable.generate settings) w (w.store.generate settings).1 w' ∧
      w'.store = (w.store.generate settings).2 ∧ w'.out = w.out ∧ w'.err = w.err := by
  have hmade := settings.gives_generate w.store w rfl
  rw [← Memory.generate_eq_generateIn] at hmade
  exact ⟨_, Prod.ext hmade.1 rfl, hmade.2, silent_generate settings w⟩

/-- On a plain stream the line that tells of a table is added. -/
theorem addPlain_summary {session : Session} (houtput : IsClean session.settings.output.chars)
    {g : Generated} (hg : g.output = session.settings.output) {p : Printed}
    (hp : p.state = .ground) :
    p.addPlain (statusLine .header "Generated" (some g.summary) true) =
      { text := p.text ++ session.line g.words.length, state := .ground } := by
  have hsummary : ∀ text ∈ some g.summary, IsClean text.toList := by
    rintro text h
    rw [← Option.some.inj h]
    exact isClean_summary (hg ▸ houtput)
  have hline := shows_statusLine (show IsClean "Generated".toList by decide) hsummary .header true
  rw [plainLine_summary session hg] at hline
  exact Printed.addPlain_of_shows hp hline

/-- The answer of a round that comes after `n` others. -/
def answer (session : Session) (m : Memory) (n : Nat) : Except GenerateError Generated :=
  ((session.generateShown : Simulated Memory _).run (session.afterRounds m n).2).1

/-- One round more is a round in the world that the others have left. -/
theorem afterRounds_succ (session : Session) (m : Memory) (n : Nat) :
    session.afterRounds m (n + 1) =
      ((session.afterRounds m n).1 ++ [session.answer m n],
        ((session.generateShown : Simulated Memory _).run (session.afterRounds m n).2).2) := by
  unfold answer afterRounds
  rw [List.replicate_succ', List.mapM_append, StateT.run_bind]
  rfl

theorem length_afterRounds (session : Session) (m : Memory) (n : Nat) :
    (session.afterRounds m n).1.length = n := by
  induction n with
  | zero => rfl
  | succ n ih => rw [afterRounds_succ, List.length_append, ih, List.length_singleton]

/-- The answers of earlier rounds stay as they are. -/
theorem getElem_afterRounds (session : Session) (m : Memory) {k n : Nat} (hk : k < n) :
    (session.afterRounds m n).1[k]? = some (session.answer m k) := by
  induction n with
  | zero => omega
  | succ n ih =>
      have hlength := length_afterRounds session m n
      rw [afterRounds_succ]
      by_cases hlast : k < n
      · rw [List.getElem?_append_left (by omega), ih hlast]
      · -- The round in question is the last one.
        have hkn : k = (session.afterRounds m n).1.length := by omega
        rw [hkn, List.getElem?_concat_length, hlength]

section Rounds

variable {session : Session} (hplain : ∀ stream, session.console.colored stream = false)
  (htime : session.measureTime = false) (htemplate : session.settings.template.IsClean)
  (houtput : IsClean session.settings.output.chars)
include hplain htime htemplate houtput

omit hplain htime htemplate houtput in
/-- A round without a header does nothing. -/
theorem reports_of_absent {w : World Memory} (hw : Ready w)
    (hinput : w.store.get? session.settings.input = none) :
    let done := (session.generateShown : Simulated Memory _).run w
    Ready done.2 ∧ session.Reports w done.2 done.1 := by
  intro done
  rcases exists_does_generate session.settings w with ⟨w', hdoes, hstore, hout, herr⟩
  rw [Memory.generate_eq] at hdoes hstore
  simp only [hinput] at hdoes hstore
  have hdone : done = (_, w') := does_generateShown_error hdoes
  rw [hdone]
  refine ⟨⟨?_, ?_, ?_⟩, hinput, hstore, by rw [hout], by rw [herr]⟩
  · rw [hstore]
    exact hw.clean
  · rw [hout]
    exact hw.out_ground
  · rw [herr]
    exact hw.err_ground

/-- A round with a header stores its table, tells of it and shows it. -/
theorem reports_of_source {w : World Memory} (hw : Ready w) {source : String}
    (hinput : w.store.get? session.settings.input = some source) :
    let done := (session.generateShown : Simulated Memory _).run w
    Ready done.2 ∧ session.Reports w done.2 done.1 := by
  intro done
  rcases exists_does_generate session.settings w with ⟨w', hdoes, hstore, hout, herr⟩
  rw [Memory.generate_eq] at hdoes hstore
  simp only [hinput] at hdoes hstore
  obtain ⟨g, hg⟩ : ∃ g : Generated, g = ⟨(session.settings.render source).1,
    (session.settings.render source).2, session.settings.output⟩ := ⟨_, rfl⟩
  have hwords : g.words = session.settings.markers.words source := by rw [hg]; rfl
  have hcode : g.code = (session.settings.render source).2 := by rw [hg]
  have htable : g.code = session.settings.template.table g.words := by rw [hg]; rfl
  have hpath : g.output = session.settings.output := by rw [hg]
  have hclean : IsClean g.code.toList := by
    rw [hcode]
    exact Settings.isClean_render htemplate (hw.clean _ _ hinput)
  rw [← hg] at hdoes
  rw [← hcode] at hstore
  -- Both texts are shown as they are, and leave their streams outside any sequence.
  have hshown := Printed.addPlain_of_shows hw.out_ground (shows_clean hclean)
  have htold := addPlain_summary houtput hpath hw.err_ground
  have hdone : done = _ := does_generateShown_ok htime hdoes
  simp only [World.print, hplain, Printed.add, hout, herr, hstore, Bool.false_eq_true, if_false,
    hshown, htold] at hdone
  rw [hdone]
  refine ⟨⟨?_, rfl, rfl⟩, ?_, htable, ?_, ?_, rfl, rfl, rfl⟩
  · -- The only text that is new is the table.
    intro p text htext
    rw [Memory.get_write] at htext
    by_cases hp : p.route = session.settings.output.route
    · rw [if_pos hp, Option.some.injEq] at htext
      rw [← htext]
      exact hclean
    · rw [if_neg hp] at htext
      exact hw.clean p text htext
  · rw [hinput, Option.map_some, hwords]
  · rw [htable]
    exact session.settings.template.count_comma_table g.words
  · rw [Memory.get_write, if_pos rfl]

/-- One round, and what it keeps for the next. -/
theorem reports_generateShown {w : World Memory} (hw : Ready w) :
    let done := (session.generateShown : Simulated Memory _).run w
    Ready done.2 ∧ session.Reports w done.2 done.1 := by
  cases hinput : w.store.get? session.settings.input with
  | none => exact reports_of_absent hw hinput
  | some source => exact reports_of_source hplain htime htemplate houtput hw hinput

/-- What was kept from each round is what it takes for the next. -/
theorem ready_afterRounds {m : Memory}
    (hclean : ∀ p text, m.get? p = some text → IsClean text.toList) (n : Nat) :
    Ready (session.afterRounds m n).2 := by
  induction n with
  | zero => exact ⟨hclean, rfl, rfl⟩
  | succ n ih =>
      rw [afterRounds_succ]
      exact (reports_generateShown hplain htime htemplate houtput ih).1

/-- Every round reports, however many have gone before. -/
theorem reports_round {m : Memory}
    (hclean : ∀ p text, m.get? p = some text → IsClean text.toList) (n : Nat) :
    session.Reports (session.afterRounds m n).2 (session.afterRounds m (n + 1)).2
      (session.answer m n) := by
  have hready := ready_afterRounds hplain htime htemplate houtput hclean n
  rw [afterRounds_succ]
  exact (reports_generateShown hplain htime htemplate houtput hready).2

end Rounds

/-- The streams have what the rounds have reported, one after the other. -/
theorem texts_afterRounds {session : Session} {m : Memory}
    (h : ∀ n, session.Reports (session.afterRounds m n).2 (session.afterRounds m (n + 1)).2
      (session.answer m n)) (n : Nat) :
    (session.afterRounds m n).2.out.text =
      String.join (((session.afterRounds m n).1.filterMap Except.toOption).map (·.code)) ∧
    (session.afterRounds m n).2.err.text =
      String.join (((session.afterRounds m n).1.filterMap Except.toOption).map
        fun g => session.line g.words.length) := by
  induction n with
  | zero => exact ⟨rfl, rfl⟩
  | succ n ih =>
      have hround := h n
      have hanswers : (session.afterRounds m (n + 1)).1 =
          (session.afterRounds m n).1 ++ [session.answer m n] := by rw [afterRounds_succ]
      rw [hanswers, List.filterMap_append, List.map_append, List.map_append, String.join_append,
        String.join_append, ← ih.1, ← ih.2]
      cases hanswer : session.answer m n with
      | error e =>
          -- A round that fails prints nothing.
          rw [hanswer] at hround
          rcases hround with ⟨-, -, hout, herr⟩
          exact ⟨hout.trans String.append_empty.symm, herr.trans String.append_empty.symm⟩
      | ok g =>
          rw [hanswer] at hround
          rcases hround with ⟨-, -, -, -, -, hout, herr⟩
          have hjoin : ∀ text : String, String.join [text] = text := fun text => by
            rw [String.join_cons, String.join_nil, String.append_empty]
          exact ⟨hout.trans (congrArg _ (hjoin g.code).symm),
            herr.trans (congrArg _ (hjoin (session.line g.words.length)).symm)⟩

/-- On a console without colours a session that does not tell the time leaves on
    its streams just what it should, if the texts, the template and the path of
    the output are clean. However often it generates, there are the tables on
    the one stream and a line for each of them on the other, and each round
    reports for itself. -/
theorem reports_rounds (session : Session) (m : Memory) (n : Nat) (env : Environment)
    (hcolor : session.console = .ofChoice .never env) (htime : session.measureTime = false)
    (hclean : ∀ p text, m.get? p = some text → IsClean text.toList)
    (htemplate : session.settings.template.IsClean)
    (houtput : IsClean session.settings.output.chars) :
    (session.afterRounds m n).1.length = n ∧
    (session.afterRounds m n).2.out.text =
      String.join (((session.afterRounds m n).1.filterMap Except.toOption).map (·.code)) ∧
    (session.afterRounds m n).2.err.text =
      String.join (((session.afterRounds m n).1.filterMap Except.toOption).map
        fun g => session.line g.words.length) ∧
    ∀ k < n, ∃ answer, (session.afterRounds m n).1[k]? = some answer ∧
      session.Reports (session.afterRounds m k).2 (session.afterRounds m (k + 1)).2 answer := by
  have hplain : ∀ stream, session.console.colored stream = false := by
    intro stream
    rw [hcolor]
    rfl
  have hround := fun k => reports_round hplain htime htemplate houtput hclean k
  rcases texts_afterRounds hround n with ⟨hout, herr⟩
  exact ⟨length_afterRounds session m n, hout, herr,
    fun k hk => ⟨session.answer m k, getElem_afterRounds session m hk, hround k⟩⟩

/-- The session writes over what it reads, so the second round finds a table in
    which there is no keyword. -/
theorem reports_rounds_overwriting :
    let session : Session :=
      { settings := { input := .ofText "token.h", output := .ofText "token.h/" }
        console := .ofChoice .never .empty }
    let m := ({} : Memory).insert (.ofText "token.h") "Keyword\r\n\tIF\x0c, 1\nTEOF\n"
    (∀ p text, m.get? p = some text → IsClean text.toList) ∧
    session.settings.template.IsClean ∧ IsClean session.settings.output.chars ∧
    (session.afterRounds m 2).1.length = 2 ∧
    (session.afterRounds m 2).2.out.text =
      String.join (((session.afterRounds m 2).1.filterMap Except.toOption).map (·.code)) ∧
    (session.afterRounds m 2).2.err.text =
      String.join (((session.afterRounds m 2).1.filterMap Except.toOption).map
        fun g => session.line g.words.length) ∧
    ∀ k < 2, ∃ answer, (session.afterRounds m 2).1[k]? = some answer ∧
      session.Reports (session.afterRounds m k).2 (session.afterRounds m (k + 1)).2 answer := by
  intro session m
  have hclean : ∀ p text, m.get? p = some text → IsClean text.toList := by
    intro p text htext
    rw [Memory.get_insert] at htext
    by_cases hp : p.route = (Path.ofText "token.h").route
    · rw [if_pos hp, Option.some.injEq] at htext
      rw [← htext]
      decide +kernel
    · rw [if_neg hp] at htext
      cases htext
  have htemplate : session.settings.template.IsClean := ⟨by decide, by decide, by decide⟩
  have houtput : IsClean session.settings.output.chars := by decide +kernel
  exact ⟨hclean, htemplate, houtput,
    reports_rounds session m 2 .empty rfl rfl hclean htemplate houtput⟩

-- The noun goes by the number, and a word keeps what looks like the rest of a sequence.
example :
    let session : Session :=
      { settings := { input := .ofText "a", output := .ofText "a" }
        console := .ofChoice .never .empty }
    (session.afterRounds (({} : Memory).insert (.ofText "a") "Keyword\n[1mIF, 1") 2).2.err.text =
      "    Generated 1 keyword into a\n    Generated 0 keywords into a\n" := by
  decide +kernel

end Session

end KeywordTable
