import KeywordTable.Proofs.Store
import KeywordTable.Proofs.World

/-!
# Memory and Its History

Files in memory are placed, written and generated in any order and under any
spelling of their paths. What they hold in the end is told by the history: under
a path there is the text that was stored last under a path with the same route,
and nothing if there was no such storing.

A generation takes part in that twice. It stores a text, and which text depends
on what was stored before under its input, perhaps by other generations. So what
a step stores is said for the memory that it finds. `get_perform` is what one
step does to the texts, and `get_after` follows by induction on the number of
steps. How often something was written is counted along.

## Main definitions

* `MemoryStep`: Something that is asked of files in memory.
* `Memory.generate`: A generation with files in memory.
* `Memory.after`: The memory after some steps.
* `MemoryStep.stores?`: What a step stores.
* `turn?`: A step of a history with the memory that it finds.
* `StoredAt`: A step stores a text under a path.
* `LastStored`: No later step stores under the path.

## Theorems

* `Memory.generate_eq`: A generation fails only if there is no input.
* `Memory.get_perform`: What one step does to the texts.
* `Memory.writes_perform`: What one step does to the count.
* `storedAt_concat`: A step more is one more storing.
* `Memory.get_after`: Memory holds what was stored last.
* `Memory.writes_after`: Writes and generations are counted.
* `Memory.after_tells_history`: Memory is told by its history.
-/

namespace KeywordTable

/-- Something that is asked of files in memory. -/
inductive MemoryStep where
  | insert (p : Path) (text : String)
  /-- A file that is placed while the memory is set up. -/
  | withFile (p : Path) (text : String)
  | get (p : Path)
  | contains (p : Path)
  | read (p : Path)
  | write (p : Path) (text : String)
  | generate (settings : Settings)

namespace Memory

/-- A generation with files in memory: its result and the memory after it. -/
def generate (m : Memory) (settings : Settings) : Except GenerateError Generated × Memory :=
  let run : Simulated Memory (Except GenerateError Generated) := KeywordTable.generate settings
  ((run.run { store := m }).1, (run.run { store := m }).2.store)

theorem generate_eq_generateIn (m : Memory) (settings : Settings) :
    m.generate settings = settings.generateIn m :=
  have hrun := settings.gives_generate m { store := m } rfl
  Prod.ext hrun.1 hrun.2

/-- A generation fails only if there is no input, and then changes nothing. -/
theorem generate_eq (m : Memory) (settings : Settings) :
    m.generate settings = match m.get? settings.input with
      | none => (.error (.read settings.input (.absent settings.input)), m)
      | some source =>
        (.ok { words := (settings.render source).1
               code := (settings.render source).2
               output := settings.output },
          m.write settings.output (settings.render source).2) := by
  -- Reading fails where there is no text, and writing never does.
  have hread : FileStore.read m settings.input = m.read settings.input := rfl
  rw [generate_eq_generateIn]
  simp only [Settings.generateIn, hread, read]
  cases m.get? settings.input with
  | none => rfl
  | some source => rfl

/-- The memory after a step. -/
def perform (m : Memory) : MemoryStep → Memory
  | .insert p text | .withFile p text => m.insert p text
  | .get _ | .contains _ | .read _ => m
  | .write p text => m.write p text
  | .generate settings => (m.generate settings).2

/-- The memory after some steps, at first empty. -/
def after (steps : List MemoryStep) : Memory :=
  steps.foldl perform {}

end Memory

namespace MemoryStep

/-- What a step stores, and where, in the memory that it finds. A generation
    stores the table of the text that its input has. -/
def stores? (m : Memory) : MemoryStep → Option (Path × String)
  | insert p text | withFile p text | write p text => some (p, text)
  | get _ | contains _ | read _ => none
  | generate settings =>
    (m.get? settings.input).map fun source => (settings.output, (settings.render source).2)

/-- The step is a write. -/
def isWrite : MemoryStep → Bool
  | write _ _ => true
  | _ => false

/-- The step is a generation that succeeds in the memory that it finds. -/
def generates (m : Memory) : MemoryStep → Bool
  | generate settings => (m.generate settings).1.isOk
  | _ => false

end MemoryStep

namespace Memory

/-- A step changes the text under the paths that it stores under, and no
    other. -/
theorem get_perform (m : Memory) (step : MemoryStep) (p : Path) :
    (m.perform step).get? p = match step.stores? m with
      | some (q, text) => if p.route = q.route then some text else m.get? p
      | none => m.get? p := by
  cases step with
  | insert q text => exact get_insert m q p text
  | withFile q text => exact get_insert m q p text
  | get q => rfl
  | contains q => rfl
  | read q => rfl
  | write q text => exact get_write m q p text
  | generate settings =>
      simp only [perform, generate_eq, MemoryStep.stores?]
      cases m.get? settings.input with
      | none => rfl
      | some source => exact get_write m settings.output p _

/-- A step is counted if it is a write or a generation that succeeds. -/
theorem writes_perform (m : Memory) (step : MemoryStep) :
    (m.perform step).writes =
      m.writes + (if step.isWrite then 1 else 0) + (if step.generates m then 1 else 0) := by
  cases step with
  | insert q text => rfl
  | withFile q text => rfl
  | get q => rfl
  | contains q => rfl
  | read q => rfl
  | write q text => rfl
  | generate settings =>
      simp only [perform, MemoryStep.generates, generate_eq]
      cases m.get? settings.input with
      | none => rfl
      | some source => rfl

theorem after_concat (steps : List MemoryStep) (step : MemoryStep) :
    after (steps ++ [step]) = (after steps).perform step := by
  rw [after, List.foldl_append]
  rfl

end Memory

/-- The step at a place in the history, with the memory that it finds. -/
def turn? (steps : List MemoryStep) (i : Nat) : Option (Memory × MemoryStep) :=
  steps[i]?.map fun step => (Memory.after (steps.take i), step)

/-- What the step at a place in the history stores. -/
def stored? (steps : List MemoryStep) (i : Nat) : Option (Path × String) :=
  (turn? steps i).bind fun (m, step) => step.stores? m

/-- The step at a place in the history stores the text, under some spelling of
    the path. -/
def StoredAt (steps : List MemoryStep) (p : Path) (i : Nat) (text : String) : Prop :=
  ∃ q, stored? steps i = some (q, text) ∧ p.route = q.route

/-- The text was stored under the path, and nothing was stored there later. -/
def LastStored (steps : List MemoryStep) (p : Path) (text : String) : Prop :=
  ∃ i, StoredAt steps p i text ∧ ∀ j later, i < j → ¬ StoredAt steps p j later

/-- The step at a place in the history is a generation that succeeds. -/
def generatesAt (steps : List MemoryStep) (i : Nat) : Bool :=
  (turn? steps i).any fun (m, step) => step.generates m

theorem turn_of_lt {steps : List MemoryStep} {i : Nat} (hi : i < steps.length)
    (step : MemoryStep) : turn? (steps ++ [step]) i = turn? steps i := by
  simp only [turn?, List.getElem?_append_left hi, List.take_append_of_le_length hi.le]

theorem turn_length (steps : List MemoryStep) (step : MemoryStep) :
    turn? (steps ++ [step]) steps.length = some (Memory.after steps, step) := by
  simp only [turn?, List.getElem?_concat_length, List.take_left, Option.map_some]

theorem lt_length_of_storedAt {steps : List MemoryStep} {p : Path} {i : Nat} {text : String}
    (h : StoredAt steps p i text) : i < steps.length := by
  obtain ⟨q, hq, -⟩ := h
  by_contra hi
  simp only [stored?, turn?, List.getElem?_eq_none (Nat.le_of_not_lt hi), Option.map_none,
    Option.bind_none, reduceCtorEq] at hq

theorem le_length_of_storedAt_concat {steps : List MemoryStep} {step : MemoryStep} {p : Path}
    {i : Nat} {text : String} (h : StoredAt (steps ++ [step]) p i text) : i ≤ steps.length := by
  have hi := lt_length_of_storedAt h
  rw [List.length_append, List.length_singleton] at hi
  omega

/-- A step more is at most one storing more, the last one. -/
theorem storedAt_concat (steps : List MemoryStep) (step : MemoryStep) (p : Path) (i : Nat)
    (text : String) :
    StoredAt (steps ++ [step]) p i text ↔
      StoredAt steps p i text ∨ i = steps.length ∧
        ∃ q, step.stores? (Memory.after steps) = some (q, text) ∧ p.route = q.route := by
  rcases Nat.lt_trichotomy i steps.length with hi | rfl | hi
  · simp only [StoredAt, stored?, turn_of_lt hi, hi.ne, false_and, or_false]
  · have hnone : ¬ StoredAt steps p steps.length text := fun h =>
      absurd (lt_length_of_storedAt h) (Nat.lt_irrefl _)
    rw [or_iff_right hnone, and_iff_right rfl, StoredAt, stored?, turn_length]
    rfl
  · have hlong : ¬ StoredAt (steps ++ [step]) p i text := fun h =>
      absurd (le_length_of_storedAt_concat h) (Nat.not_le_of_lt hi)
    have hshort : ¬ StoredAt steps p i text := fun h =>
      absurd (lt_length_of_storedAt h) (Nat.lt_asymm hi)
    simp only [hlong, hshort, hi.ne', false_and, or_false]

namespace Memory

/-- Memory holds what was stored last, and nothing where nothing was stored. -/
theorem get_after (steps : List MemoryStep) (p : Path) :
    match (after steps).get? p with
    | some text => LastStored steps p text
    | none => ∀ i text, ¬ StoredAt steps p i text := by
  induction steps using List.reverseRecOn with
  | nil => exact fun i text h => absurd (lt_length_of_storedAt h) (Nat.not_lt_zero i)
  | append_singleton steps step ih =>
      rw [after_concat, get_perform]
      by_cases hstep : ∃ q text, step.stores? (after steps) = some (q, text) ∧ p.route = q.route
      · -- The step stores under the path, so it is the last one to do so.
        obtain ⟨q, text, hstores, hroute⟩ := hstep
        simp only [hstores, hroute, if_true]
        refine ⟨steps.length, (storedAt_concat ..).mpr (.inr ⟨rfl, q, hstores, hroute⟩), ?_⟩
        intro j later hj hlater
        exact absurd (le_length_of_storedAt_concat hlater) (Nat.not_le_of_lt hj)
      · -- The step stores elsewhere or not at all, so both sides are as before.
        have hsame : ∀ i text, StoredAt (steps ++ [step]) p i text ↔ StoredAt steps p i text := by
          intro i text
          rw [storedAt_concat]
          exact or_iff_left fun ⟨_, q, hq⟩ => hstep ⟨q, text, hq⟩
        have hget : (match step.stores? (after steps) with
            | some (q, text) => if p.route = q.route then some text else (after steps).get? p
            | none => (after steps).get? p) = (after steps).get? p := by
          rcases hstores : step.stores? (after steps) with _ | ⟨q, text⟩
          · rfl
          · exact if_neg fun hroute => hstep ⟨q, text, hstores, hroute⟩
        rw [hget]
        simpa only [LastStored, hsame] using ih

theorem lastStored_of_get {steps : List MemoryStep} {p : Path} {text : String}
    (h : (after steps).get? p = some text) : LastStored steps p text := by
  have hget := get_after steps p
  rwa [h] at hget

theorem not_storedAt_of_get {steps : List MemoryStep} {p : Path}
    (h : (after steps).get? p = none) (i : Nat) (text : String) : ¬ StoredAt steps p i text := by
  have hget := get_after steps p
  rw [h] at hget
  exact hget i text

/-- Writes and generations that succeed are counted. -/
theorem writes_after (steps : List MemoryStep) :
    (after steps).writes = steps.countP MemoryStep.isWrite +
      (List.range steps.length).countP (generatesAt steps) := by
  induction steps using List.reverseRecOn with
  | nil => rfl
  | append_singleton steps step ih =>
      -- The earlier steps find the same memory, whatever follows them.
      have hbefore : (List.range steps.length).countP (generatesAt (steps ++ [step])) =
          (List.range steps.length).countP (generatesAt steps) :=
        List.countP_congr fun i hi => by
          rw [generatesAt, generatesAt, turn_of_lt (List.mem_range.mp hi)]
      have hlast : generatesAt (steps ++ [step]) steps.length = step.generates (after steps) := by
        rw [generatesAt, turn_length, Option.any_some]
      rw [after_concat, writes_perform, ih, List.length_append, List.length_singleton,
        List.range_succ, List.countP_append, List.countP_append, List.countP_singleton,
        List.countP_singleton, hlast, hbefore]
      omega

/-- Memory is told by its history. A path leads to the text that was stored last
    under a path with its route, whoever stored it, and to nothing if there was
    no such storing. A generation fails only where its input leads to nothing,
    and then changes nothing. Writes and generations are counted. -/
theorem after_tells_history (steps : List MemoryStep) (p : Path) (settings : Settings) :
    (∀ i text, StoredAt steps p i text → ∃ last, LastStored steps p last ∧
      (after steps).contains p = true ∧ (after steps).get? p = some last ∧
      (after steps).read p = .ok last) ∧
    ((∀ i text, ¬ StoredAt steps p i text) →
      (after steps).contains p = false ∧ (after steps).get? p = none ∧
      (after steps).read p = .error (.absent p)) ∧
    (match (after steps).get? settings.input with
      | none =>
        (after steps).generate settings =
          (.error (.read settings.input (.absent settings.input)), after steps)
      | some source =>
        ((after steps).generate settings).1 = .ok
          { words := (settings.render source).1
            code := (settings.render source).2
            output := settings.output }) ∧
    (after steps).writes = steps.countP MemoryStep.isWrite +
      (List.range steps.length).countP (generatesAt steps) := by
  refine ⟨?_, ?_, ?_, writes_after steps⟩
  · -- Where something was stored the last text stays, whatever came between.
    intro i text hstored
    cases hp : (after steps).get? p with
    | none => exact absurd hstored (not_storedAt_of_get hp i text)
    | some last =>
        exact ⟨last, lastStored_of_get hp, by rw [contains, hp, Option.isSome_some], rfl,
          by rw [read, hp]⟩
  · intro hnothing
    cases hp : (after steps).get? p with
    | none => exact ⟨by rw [contains, hp, Option.isSome_none], rfl, by rw [read, hp]⟩
    | some last =>
        obtain ⟨i, hstored, -⟩ := lastStored_of_get hp
        exact absurd hstored (hnothing i last)
  · rw [generate_eq]
    cases (after steps).get? settings.input with
    | none => rfl
    | some source => rfl

/-- A header is placed and a generation writes over it, under another spelling.
    One more finds no input, and the last one reads what the first one wrote. -/
def overwriting : List MemoryStep :=
  [.insert (.ofText "a/token.h") "Keyword\nIF, 1\nTEOF\n",
    .generate { input := .ofText "a//token.h", output := .ofText "a/./token.h/" },
    .generate { input := .ofText "./a/token.h", output := .ofText "a/token.h" },
    .generate { input := .ofText "a/token.h", output := .ofText "b" }]

theorem after_tells_overwriting :
    (∃ text, StoredAt overwriting (.ofText "a/token.h//") 1 text) ∧
    (∃ last, LastStored overwriting (.ofText "a/token.h//") last ∧
      (after overwriting).contains (.ofText "a/token.h//") = true ∧
      (after overwriting).get? (.ofText "a/token.h//") = some last ∧
      (after overwriting).read (.ofText "a/token.h//") = .ok last) ∧
    (after overwriting).read (.ofText "./a/token.h") =
      .error (.absent (.ofText "./a/token.h")) ∧
    (after overwriting).writes = 2 := by
  have hstored : StoredAt overwriting (.ofText "a/token.h//") 1
      (({ input := .ofText "", output := .ofText "" } : Settings).render
        "Keyword\nIF, 1\nTEOF\n").2 :=
    ⟨.ofText "a/./token.h/", by decide +kernel, by decide +kernel⟩
  have hnothing : ∀ i text, ¬ StoredAt overwriting (.ofText "./a/token.h") i text :=
    not_storedAt_of_get (by decide +kernel)
  have htold := fun p => after_tells_history overwriting p
    { input := .ofText "b", output := .ofText "c" }
  exact ⟨⟨_, hstored⟩, (htold _).1 1 _ hstored, ((htold _).2.1 hnothing).2.2,
    (htold (.ofText "b")).2.2.2.trans (by decide +kernel)⟩

end Memory

end KeywordTable
