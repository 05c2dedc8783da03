import KeywordTable.Settings.Basic

/-!
# What Resolving Looks At

Settings are put together from what is given for this run, what the settings
file says, and what is built in. Resolving goes through the settings in their
order and stops at the first that it looks at and finds empty. It does not look
at a path of the file that is replaced for this run.

All of that is one equation. For each setting there is a test, `LeftEmpty`, and
a value that it has if the test does not stop the run. Resolving is the first of
the tests that is met, or else the record of all the values (`resolve_eq`). The
steps of resolving are brought to that form one by one, and what it fails on and
what it makes is then read off.

That a replaced path is not looked at has a consequence. A settings file that
leaves a path empty is no good on its own, and becomes good if the path is given
for the run. So whether the file is accepted depends on more than the file, and
`resolve_refuses_unless_replaced` says on how much.

## Main definitions

* `Overrides.given?`: The path that is given for a setting.
* `LeftEmpty`: The setting is looked at and found empty.
* `FirstEmpty`: The first such setting.
* `unlessEmpty`: A result, unless there is such a setting.
* `Settings.filled`: The values of all settings.
* `Setting.Placed`: Where a path of the settings comes from.
* `Settings.ResolvedFrom`: Where the settings come from.

## Theorems

* `unlessEmpty_eq_error_iff`: What a first empty setting does.
* `SettingsFile.get_eq`, `Setting.path_eq`: One step of resolving.
* `Settings.resolve_eq`: Resolving as a whole.
* `Settings.resolvedFrom_filled`: Where the values of all settings come from.
* `Settings.resolve_stops_at_first_empty`: When resolving fails, and what it
  makes if it does not.
* `Settings.resolve_refuses_unless_replaced`: When a file that leaves a path or
  a marker empty is refused.
* `Settings.resolve_accepts_replaced`: Such a file can be accepted.
-/

namespace KeywordTable

/-- The path that is given for a setting in this run. -/
def Overrides.given? (overrides : Overrides) : Setting → Option Path
  | .input => overrides.input
  | .output => overrides.output
  | _ => none

/-- Only paths are given. -/
theorem Overrides.given_eq_none (overrides : Overrides) {s : Setting} (h : s.group ≠ .paths) :
    overrides.given? s = none := by
  cases s with
  | input => exact absurd rfl h
  | output => exact absurd rfl h
  | opening | closing | header | enumType | tableName => rfl

section Empty

variable (file : SettingsFile) (overrides : Overrides)

/-- The file leaves the setting empty, and nothing is given in its place. -/
def LeftEmpty (s : Setting) : Prop :=
  overrides.given? s = none ∧ file.value? s = some ""

instance (s : Setting) : Decidable (LeftEmpty file overrides s) :=
  inferInstanceAs (Decidable (_ ∧ _))

/-- The first setting, in order, that the file leaves empty and that nothing is
    given for. -/
def FirstEmpty (s : Setting) : Prop :=
  LeftEmpty file overrides s ∧
    ∃ before after, Setting.all = before ++ s :: after ∧
      ∀ t ∈ before, ¬ LeftEmpty file overrides t

/-- The result, unless one of the settings is left empty. -/
def unlessEmpty {α : Type} (settings : List Setting) (result : Except SettingsError α) :
    Except SettingsError α :=
  match settings.find? fun s => decide (LeftEmpty file overrides s) with
  | some s => .error (.empty s)
  | none => result

theorem unlessEmpty_nil {α : Type} (result : Except SettingsError α) :
    unlessEmpty file overrides [] result = result :=
  rfl

theorem unlessEmpty_cons {α : Type} (s : Setting) (settings : List Setting)
    (result : Except SettingsError α) :
    unlessEmpty file overrides (s :: settings) result =
      if LeftEmpty file overrides s then .error (.empty s)
      else unlessEmpty file overrides settings result := by
  unfold unlessEmpty
  by_cases h : LeftEmpty file overrides s
  · simp only [List.find?_cons, h, decide_true, if_true]
  · simp only [List.find?_cons, h, decide_false, if_false]

/-- Every setting is one of the list of all. -/
theorem Setting.mem_all (s : Setting) : s ∈ Setting.all := by
  cases s <;> decide

/-- The first setting that is left empty is what a run stops at. -/
theorem unlessEmpty_eq_error_iff {α : Type} (a : α) (e : SettingsError) :
    unlessEmpty file overrides Setting.all (.ok a) = .error e ↔
      ∃ s, e = .empty s ∧ FirstEmpty file overrides s := by
  -- The search for such a setting goes through them in order.
  have hfirst : ∀ s, (Setting.all.find? fun s => decide (LeftEmpty file overrides s)) = some s ↔
      FirstEmpty file overrides s := by
    intro s
    rw [List.find?_eq_some_iff_append]
    simp only [FirstEmpty, decide_eq_true_eq, Bool.not_eq_true', decide_eq_false_iff_not]
  simp only [← hfirst, unlessEmpty]
  cases Setting.all.find? fun s => decide (LeftEmpty file overrides s) with
  | none => simp only [reduceCtorEq, and_false, exists_false]
  | some s =>
      constructor
      · intro h
        cases h
        exact ⟨s, rfl, rfl⟩
      · rintro ⟨t, rfl, ht⟩
        rw [Option.some.inj ht]

/-- There is something to stop at exactly if some setting is left empty. -/
theorem unlessEmpty_eq_ok_iff {α : Type} (a b : α) :
    unlessEmpty file overrides Setting.all (.ok a) = .ok b ↔
      (∀ s, ¬ LeftEmpty file overrides s) ∧ a = b := by
  unfold unlessEmpty
  cases hfind : Setting.all.find? fun s => decide (LeftEmpty file overrides s) with
  | none =>
      rw [List.find?_eq_none] at hfind
      have hnone : ∀ s, ¬ LeftEmpty file overrides s :=
        fun s hs => hfind s (Setting.mem_all s) (decide_eq_true hs)
      simp only [Except.ok.injEq, hnone, not_false_eq_true, implies_true, true_and]
  | some s =>
      have hs := of_decide_eq_true (List.find?_eq_some_iff_append.mp hfind).1
      exact iff_of_false (by simp only [reduceCtorEq, not_false_eq_true]) fun h => h.1 s hs

end Empty

/-- What the file says, or what holds where it says nothing. -/
def SettingsFile.text (file : SettingsFile) (s : Setting) : String :=
  (file.value? s).getD s.initial

/-- A text that is not left empty is not empty, since no built-in one is. -/
theorem SettingsFile.text_ne_empty {file : SettingsFile} {overrides : Overrides} {s : Setting}
    (hgiven : overrides.given? s = none) (h : ¬ LeftEmpty file overrides s) :
    file.text s ≠ "" := by
  unfold SettingsFile.text
  cases hvalue : file.value? s with
  | none =>
      rw [Option.getD_none]
      cases s <;> decide
  | some value =>
      rw [Option.getD_some]
      rintro rfl
      exact h ⟨hgiven, hvalue⟩

/-- The path of a setting: the one given for the run, from where it was started,
    or else that of the file, from the directory of the file. -/
def Setting.place (s : Setting) (file : SettingsFile) (base cwd : Path) (given : Option Path) :
    Path :=
  match given with
  | some path => cwd.join path
  | none => base.join (.ofText (file.text s))

/-- One step of resolving, for a text. -/
theorem SettingsFile.get_eq (file : SettingsFile) (overrides : Overrides) {s : Setting}
    (h : overrides.given? s = none) :
    file.get s = if LeftEmpty file overrides s then .error (.empty s) else .ok (file.text s) := by
  simp only [LeftEmpty, h, true_and, SettingsFile.get, SettingsFile.text]
  cases hvalue : file.value? s with
  | none => rfl
  | some value => simp only [Option.some.injEq, Option.getD_some]

/-- One step of resolving, for a path. -/
theorem Setting.path_eq (file : SettingsFile) (base cwd : Path) (overrides : Overrides)
    (s : Setting) :
    s.path file base cwd (overrides.given? s) =
      if LeftEmpty file overrides s then .error (.empty s)
      else .ok (s.place file base cwd (overrides.given? s)) := by
  cases hgiven : overrides.given? s with
  | some path =>
      have hnot : ¬ LeftEmpty file overrides s := by
        rintro ⟨hnone, -⟩
        rw [hgiven] at hnone
        cases hnone
      rw [if_neg hnot]
      rfl
  | none =>
      rw [Setting.path, SettingsFile.get_eq file overrides hgiven]
      by_cases h : LeftEmpty file overrides s
      · rw [if_pos h, if_pos h]
        rfl
      · rw [if_neg h, if_neg h]
        rfl

/-- A step that may stop, and what comes after it. -/
theorem stop_bind {ε α β : Type} {p : Prop} [Decidable p] (e : ε) (a : α) (k : α → Except ε β) :
    (if p then .error e else .ok a) >>= k = if p then .error e else k a := by
  by_cases h : p
  · rw [if_pos h, if_pos h]
    rfl
  · rw [if_neg h, if_neg h]
    rfl

namespace Settings

/-- The values of all settings. -/
def filled (file : SettingsFile) (base cwd : Path) (overrides : Overrides) : Settings where
  input := Setting.input.place file base cwd overrides.input
  output := Setting.output.place file base cwd overrides.output
  markers := { opening := file.text .opening, closing := file.text .closing }
  template :=
    { header := file.text .header
      enumType := file.text .enumType
      tableName := file.text .tableName }

/-- Resolving stops at the first setting that is left empty, and gives the values
    of all settings if there is none. -/
theorem resolve_eq (file : SettingsFile) (base cwd : Path) (overrides : Overrides) :
    resolve file base cwd overrides =
      unlessEmpty file overrides Setting.all (.ok (filled file base cwd overrides)) := by
  have hall : Setting.all =
      [.input, .output, .opening, .closing, .header, .enumType, .tableName] := rfl
  have hinput : Setting.input.path file base cwd overrides.input = _ :=
    Setting.path_eq file base cwd overrides .input
  have houtput : Setting.output.path file base cwd overrides.output = _ :=
    Setting.path_eq file base cwd overrides .output
  have hget : ∀ s, overrides.given? s = none → file.get s = _ :=
    fun s hs => SettingsFile.get_eq file overrides hs
  -- Both sides are now the same tests, one inside the other.
  simp only [resolve, hinput, houtput, hget .opening rfl, hget .closing rfl, hget .header rfl,
    hget .enumType rfl, hget .tableName rfl, stop_bind, hall, unlessEmpty_cons, unlessEmpty_nil]
  rfl

end Settings

/-- Where a path of the settings comes from. A path that is given for the run is
    taken from where it was started. Else the path of the file or the built-in
    one is taken from the directory of the file. An absolute one stays. -/
structure Setting.Placed (s : Setting) (file : SettingsFile) (base cwd : Path)
    (overrides : Overrides) (path : Path) : Prop where
  given : ∀ p, overrides.given? s = some p → path = cwd.join p
  written : overrides.given? s = none → ∀ value, file.value? s = some value →
    path = base.join (.ofText value)
  initial : overrides.given? s = none → file.value? s = none →
    path = base.join (.ofText s.initial)
  given_absolute : ∀ p, overrides.given? s = some p → p.isAbsolute = true → path = p
  written_absolute : overrides.given? s = none → ∀ value, file.value? s = some value →
    (Path.ofText value).isAbsolute = true → path = .ofText value

theorem Setting.placed_place (s : Setting) (file : SettingsFile) (base cwd : Path)
    (overrides : Overrides) :
    s.Placed file base cwd overrides (s.place file base cwd (overrides.given? s)) := by
  have hjoin : ∀ {dir p : Path}, p.isAbsolute = true → dir.join p = p := fun h => if_pos h
  have hgiven : ∀ p, overrides.given? s = some p →
      s.place file base cwd (overrides.given? s) = cwd.join p := by
    intro p hp
    rw [hp]
    rfl
  have hwritten : overrides.given? s = none → ∀ value, file.value? s = some value →
      s.place file base cwd (overrides.given? s) = base.join (.ofText value) := by
    intro hnone value hvalue
    rw [hnone, Setting.place, SettingsFile.text, hvalue, Option.getD_some]
  refine ⟨hgiven, hwritten, ?_, ?_, ?_⟩
  · intro hnone hvalue
    rw [hnone, Setting.place, SettingsFile.text, hvalue, Option.getD_none]
  · intro p hp habs
    rw [hgiven p hp, hjoin habs]
  · intro hnone value hvalue habs
    rw [hwritten hnone value hvalue, hjoin habs]

namespace Settings

/-- Where the settings come from. The two paths have their origins, and any other
    value is that of the file or the built-in one and is not empty. No settings
    file is named. -/
structure ResolvedFrom (file : SettingsFile) (base cwd : Path) (overrides : Overrides)
    (settings : Settings) : Prop where
  input : Setting.input.Placed file base cwd overrides settings.input
  output : Setting.output.Placed file base cwd overrides settings.output
  opening : settings.markers.opening = (file.value? .opening).getD Setting.opening.initial
  closing : settings.markers.closing = (file.value? .closing).getD Setting.closing.initial
  header : settings.template.header = (file.value? .header).getD Setting.header.initial
  enumType : settings.template.enumType = (file.value? .enumType).getD Setting.enumType.initial
  tableName :
    settings.template.tableName = (file.value? .tableName).getD Setting.tableName.initial
  nonempty : "" ∉ [settings.markers.opening, settings.markers.closing, settings.template.header,
    settings.template.enumType, settings.template.tableName]
  file_eq : settings.file = none

theorem resolvedFrom_filled {file : SettingsFile} (base cwd : Path) {overrides : Overrides}
    (h : ∀ s, ¬ LeftEmpty file overrides s) :
    ResolvedFrom file base cwd overrides (filled file base cwd overrides) where
  input := Setting.input.placed_place file base cwd overrides
  output := Setting.output.placed_place file base cwd overrides
  opening := rfl
  closing := rfl
  header := rfl
  enumType := rfl
  tableName := rfl
  nonempty := by
    have htext : ∀ s, overrides.given? s = none → ("" = file.text s) = False :=
      fun s hs => eq_false (SettingsFile.text_ne_empty hs (h s)).symm
    simp only [filled, List.mem_cons, List.not_mem_nil, htext .opening rfl, htext .closing rfl,
      htext .header rfl, htext .enumType rfl, htext .tableName rfl, or_self, not_false_eq_true]
  file_eq := rfl

theorem resolve_eq_error_iff (file : SettingsFile) (base cwd : Path) (overrides : Overrides)
    (e : SettingsError) :
    resolve file base cwd overrides = .error e ↔
      ∃ s, e = .empty s ∧ FirstEmpty file overrides s := by
  rw [resolve_eq, unlessEmpty_eq_error_iff]

/-- There are settings if no setting is left empty. -/
theorem exists_resolve_ok {file : SettingsFile} (base cwd : Path) {overrides : Overrides}
    (h : ∀ s, ¬ LeftEmpty file overrides s) :
    ∃ settings, resolve file base cwd overrides = .ok settings ∧
      ResolvedFrom file base cwd overrides settings := by
  refine ⟨filled file base cwd overrides, ?_, resolvedFrom_filled base cwd h⟩
  rw [resolve_eq, unlessEmpty_eq_ok_iff]
  exact ⟨h, rfl⟩

/-- There are none if one is. -/
theorem exists_resolve_error_iff (file : SettingsFile) (base cwd : Path)
    (overrides : Overrides) :
    (∃ s, resolve file base cwd overrides = .error (.empty s)) ↔
      ∃ s, LeftEmpty file overrides s := by
  constructor
  · rintro ⟨s, hs⟩
    obtain ⟨t, -, ht, -⟩ := (resolve_eq_error_iff file base cwd overrides _).mp hs
    exact ⟨t, ht⟩
  · rintro ⟨s, hs⟩
    cases hresolve : resolve file base cwd overrides with
    | error e =>
        obtain ⟨t, rfl, -⟩ := (resolve_eq_error_iff file base cwd overrides e).mp hresolve
        exact ⟨t, rfl⟩
    | ok settings =>
        -- Had it succeeded, no setting would be left empty.
        rw [resolve_eq, unlessEmpty_eq_ok_iff] at hresolve
        exact absurd hs (hresolve.1 s)

/-- Resolving fails exactly if a setting that it looks at is left empty in the
    file, where it looks at a path only if none is given in its place. It then
    fails on the first such setting. Otherwise there are settings, and each comes
    from its own place and has its own built-in value. -/
theorem resolve_stops_at_first_empty (file : SettingsFile) (base cwd : Path)
    (overrides : Overrides) :
    ((∃ e, resolve file base cwd overrides = .error e) ↔ ∃ s, LeftEmpty file overrides s) ∧
    (∀ e, resolve file base cwd overrides = .error e ↔
      ∃ s, e = .empty s ∧ FirstEmpty file overrides s) ∧
    Setting.all.map Setting.title = ["paths.input", "paths.output", "markers.start",
      "markers.end", "table.header", "table.enum_type", "table.name"] ∧
    Setting.all.map Setting.initial = ["token.h", "token_convert.h", "Keyword", "TEOF",
      "token.h", "TokenType", "str2token"] ∧
    ((∀ s, ¬ LeftEmpty file overrides s) →
      ∃ settings, resolve file base cwd overrides = .ok settings ∧
        ResolvedFrom file base cwd overrides settings) := by
  have herror := resolve_eq_error_iff file base cwd overrides
  refine ⟨?_, herror, by decide, by decide, exists_resolve_ok base cwd⟩
  rw [← exists_resolve_error_iff file base cwd]
  constructor
  · rintro ⟨e, he⟩
    obtain ⟨s, rfl, -⟩ := (herror e).mp he
    exact ⟨s, he⟩
  · rintro ⟨s, hs⟩
    exact ⟨_, hs⟩

/-- An empty input does no harm if one is given for the run, and an absolute
    output stays. -/
theorem resolve_stops_at_none :
    let file := SettingsFile.ofList [(.input, ""), (.output, "/gen/k.h"), (.closing, "@end")]
    let overrides : Overrides := { input := some (.ofText "b.h") }
    (∀ s, ¬ LeftEmpty file overrides s) ∧
    ∃ settings, resolve file (.ofText "/proj") (.ofText "/proj/src") overrides = .ok settings ∧
      settings.input = .ofText "/proj/src/b.h" ∧ settings.output = .ofText "/gen/k.h" ∧
      settings.markers = { opening := "Keyword", closing := "@end" } := by
  intro file overrides
  have hnone : ∀ s, ¬ LeftEmpty file overrides s := by
    intro s
    cases s <;> decide
  obtain ⟨-, -, -, -, hsettings⟩ :=
    resolve_stops_at_first_empty file (.ofText "/proj") (.ofText "/proj/src") overrides
  obtain ⟨settings, hresolve, hfrom⟩ := hsettings hnone
  refine ⟨hnone, settings, hresolve, hfrom.input.given _ rfl, ?_, ?_⟩
  · exact hfrom.output.written_absolute rfl _ rfl (by decide)
  · rw [← show settings.markers.opening = "Keyword" from hfrom.opening,
      ← show settings.markers.closing = "@end" from hfrom.closing]

/-- A file that leaves a path or a marker empty is refused when nothing is given
    for the run. It is also refused when paths are given, exactly if some setting
    is left empty that none of them replaces. No path replaces a marker. -/
theorem resolve_refuses_unless_replaced (file : SettingsFile) (base cwd : Path)
    (overrides : Overrides)
    (hempty : ∃ s : Setting, (s.group = .paths ∨ s.group = .markers) ∧
      file.value? s = some "") :
    (∃ s, resolve file base cwd {} = .error (.empty s)) ∧
    ((∃ s, resolve file base cwd overrides = .error (.empty s)) ↔
      ∃ s, file.value? s = some "" ∧ overrides.given? s = none) ∧
    ((∃ s : Setting, s.group = .markers ∧ file.value? s = some "") →
      ∃ s, resolve file base cwd overrides = .error (.empty s)) := by
  simp only [exists_resolve_error_iff]
  refine ⟨?_, exists_congr fun s => and_comm, ?_⟩
  · obtain ⟨s, -, hs⟩ := hempty
    exact ⟨s, by cases s <;> rfl, hs⟩
  · rintro ⟨s, hgroup, hs⟩
    refine ⟨s, overrides.given_eq_none ?_, hs⟩
    rw [hgroup]
    decide

/-- An empty marker is refused, whatever is given for the run. -/
theorem resolve_refuses_empty_marker :
    let file := SettingsFile.ofList [(.input, ""), (.closing, "")]
    let overrides : Overrides := { input := some (.ofText "b.h"), output := some (.ofText "c.h") }
    file.value? .closing = some "" ∧
    ∃ s, resolve file (.ofText "/proj") (.ofText "/proj/src") overrides = .error (.empty s) := by
  intro file overrides
  have hmarker : ∃ s : Setting, s.group = .markers ∧ file.value? s = some "" :=
    ⟨.closing, rfl, rfl⟩
  have hempty : ∃ s : Setting, (s.group = .paths ∨ s.group = .markers) ∧
      file.value? s = some "" :=
    ⟨.closing, Or.inr rfl, rfl⟩
  exact ⟨rfl, (resolve_refuses_unless_replaced file _ _ overrides hempty).2.2 hmarker⟩

/-- A settings file that leaves the input empty is accepted if an input is given
    for the run. -/
theorem resolve_accepts_replaced :
    ∃ file, SettingsFile.parse "[paths]\ninput = \"\"\n" = .ok file ∧
      file.value? .input = some "" ∧
      ∃ settings, resolve file (.ofText "/proj") (.ofText "/proj/src")
          { input := some (.ofText "b.h") } = .ok settings ∧
        settings.input = .ofText "/proj/src/b.h" := by
  have hparsed : (SettingsFile.parse "[paths]\ninput = \"\"\n").toOption.any (fun file =>
      file.value? .input == some "" && Setting.all.all fun s =>
        !decide (LeftEmpty file { input := some (.ofText "b.h") } s)) = true := by
    decide +kernel
  cases hparse : SettingsFile.parse "[paths]\ninput = \"\"\n" with
  | error e =>
      rw [hparse] at hparsed
      cases hparsed
  | ok file =>
      simp only [hparse, Except.toOption, Option.any_some, Bool.and_eq_true, beq_iff_eq,
        List.all_eq_true, Bool.not_eq_true', decide_eq_false_iff_not] at hparsed
      obtain ⟨hinput, hnone⟩ := hparsed
      obtain ⟨settings, hresolve, hfrom⟩ := exists_resolve_ok (.ofText "/proj")
        (.ofText "/proj/src") fun s => hnone s (Setting.mem_all s)
      exact ⟨file, rfl, hinput, settings, hresolve, hfrom.input.given _ rfl⟩

end Settings

end KeywordTable
