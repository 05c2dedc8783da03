import KeywordTable.Layout

/-!
# Levels of Indented Lines

A layout counts blanks and not levels. It goes one level back if there are
blanks enough for it, which is not the same as having a level to go back to
unless the blanks are always a whole number of levels. Here the layout is
compared with one that carries the level itself. `placeAll` says at which level
each line stands, and `written` puts in front of it the blanks that so many
levels take.

The two agree because the blanks are the level times the size of one, and every
step keeps it so, whatever the bodies of blocks do. A level of no blanks is no
exception: there going back is always possible, and changes nothing.

Writing a step only adds to the text, and what it adds does not depend on the
text before it. So a step can be looked at by itself, and `added` is what it
adds. A body that never goes down or up by itself, at any depth, ends at the
level at which it began. Its steps all start there, and the block around it
closes where it was opened.

## Main definitions

* `Placed`: A line and the level at which it stands.
* `Step.place`, `placeAll`: The lines of steps and the level after them.
* `written`: The text of placed lines.
* `behind`: A layout with a text before its own.
* `onLevel`: The layout that stands at a level.
* `added`: The text that a step adds.
* `Step.isStill`, `areStill`: Nothing but blocks changes the level.

## Theorems

* `add_behind`: A step does the same after any text.
* `back_onLevel`: Going back takes one from the level.
* `add_onLevel`, `addAll_onLevel`: Steps lead from level to level.
* `add_of_isStill`: A step that is still changes the text only.
* `addAll_of_areStill`: The steps of a still body start at one level.
* `place_of_areStill`: A still body ends at its level.
* `added_block`: A block with a still body closes where it was opened.
* `render_carries_level`: A text is written level by level.
-/

namespace KeywordTable

namespace Layout

/-! ### Lines at levels -/

/-- A line with so many blanks before it. -/
def indented (blanks : Nat) (text : String) : String :=
  .ofList (List.replicate blanks ' ') ++ text ++ "\n"

/-- A line and the level at which it stands. -/
inductive Placed where
  | line (level : Nat) (text : String)
  /-- A line with nothing on it stands at no level. -/
  | blank
  deriving Repr, DecidableEq

/-- The text of a line, where one level takes so many blanks. -/
def Placed.text (size : Nat) : Placed → String
  | .line level text => indented (size * level) text
  | .blank => "\n"

/-- The text of lines, where one level takes so many blanks. -/
def written (size : Nat) (lines : List Placed) : String :=
  String.join (lines.map (Placed.text size))

theorem append_written_nil (size : Nat) (text : String) : text ++ written size [] = text :=
  String.append_empty

theorem written_append (size : Nat) (xs ys : List Placed) :
    written size (xs ++ ys) = written size xs ++ written size ys := by
  rw [written, List.map_append, String.join_append]
  rfl

theorem written_singleton (size : Nat) (line : Placed) : written size [line] = line.text size := by
  rw [written, List.map_singleton, String.join_cons, String.join_nil, String.append_empty]

mutual

/-- The level after a step, and the lines of the step. -/
def Step.place (level : Nat) : Step → Nat × List Placed
  | .deeper => (level + 1, [])
  | .back => (level - 1, [])
  | .line text => (level, [.line level text])
  | .blank => (level, [.blank])
  | .block opening closing body =>
    let inside := placeAll (level + 1) body
    (inside.1 - 1, [.line level opening] ++ inside.2 ++ [.line (inside.1 - 1) closing])

/-- The level after steps, and the lines of the steps. -/
def placeAll (level : Nat) : List Step → Nat × List Placed
  | [] => (level, [])
  | step :: steps =>
    let first := step.place level
    let rest := placeAll first.1 steps
    (rest.1, first.2 ++ rest.2)

end

/-! ### Text is only added -/

/-- The layout with a text before its own. -/
def behind (before : String) (layout : Layout) : Layout :=
  { layout with text := before ++ layout.text }

theorem back_behind (before : String) (layout : Layout) :
    (layout.behind before).back = layout.back.behind before := by
  by_cases hsize : layout.size ≤ layout.indent
  · rw [show layout.back = _ from if_pos hsize]
    exact if_pos hsize
  · rw [show layout.back = _ from if_neg hsize]
    exact if_neg hsize

theorem addLine_behind (before : String) (layout : Layout) (line : String) :
    (layout.behind before).addLine line = (layout.addLine line).behind before := by
  simp only [addLine, behind, String.append_assoc]

theorem addBlank_behind (before : String) (layout : Layout) :
    (layout.behind before).addBlank = layout.addBlank.behind before := by
  simp only [addBlank, behind, String.append_assoc]

theorem deeper_behind (before : String) (layout : Layout) :
    (layout.behind before).deeper = layout.deeper.behind before :=
  rfl

mutual

/-- A step does the same after any text. -/
theorem add_behind (before : String) (layout : Layout) (step : Step) :
    (layout.behind before).add step = (layout.add step).behind before := by
  cases step with
  | deeper => exact deeper_behind before layout
  | back => exact back_behind before layout
  | line text => exact addLine_behind before layout text
  | blank => exact addBlank_behind before layout
  | block opening closing body =>
      -- The text before is passed on from the opening line to the closing one.
      rw [add, add, addLine_behind, deeper_behind, addAll_behind, back_behind, addLine_behind]

/-- Steps do the same after any text. -/
theorem addAll_behind (before : String) (layout : Layout) (steps : List Step) :
    (layout.behind before).addAll steps = (layout.addAll steps).behind before := by
  cases steps with
  | nil => rfl
  | cons step steps => rw [addAll, addAll, add_behind, addAll_behind]

end

/-- The text that a step adds. -/
def added (layout : Layout) (step : Step) : String :=
  (add { layout with text := "" } step).text

/-- A step leaves the text that there is, and adds its own. -/
theorem text_add (layout : Layout) (step : Step) :
    (layout.add step).text = layout.text ++ layout.added step := by
  have hlayout : behind layout.text { layout with text := "" } = layout := by
    rw [behind, String.append_empty]
  calc (layout.add step).text
      = ((behind layout.text { layout with text := "" }).add step).text := by rw [hlayout]
    _ = layout.text ++ layout.added step := by
      rw [add_behind]
      rfl

/-! ### The level is carried -/

/-- The layout that stands at a level. -/
def onLevel (size level : Nat) (text : String) : Layout :=
  { size, indent := size * level, text }

theorem deeper_onLevel (size level : Nat) (text : String) :
    (onLevel size level text).deeper = onLevel size (level + 1) text :=
  rfl

/-- Going back takes one from the level, and nothing from the outermost one. -/
theorem back_onLevel (size level : Nat) (text : String) :
    (onLevel size level text).back = onLevel size (level - 1) text := by
  unfold back onLevel
  by_cases hsize : size ≤ size * level
  · rw [if_pos hsize, Nat.mul_sub_one]
  · -- Blanks are missing only where there is no level.
    have hlevel : level = 0 := by
      rcases Nat.eq_zero_or_pos level with hzero | hpos
      · exact hzero
      · exact absurd (Nat.le_mul_of_pos_right size hpos) hsize
    rw [if_neg hsize, hlevel]

theorem addLine_onLevel (size level : Nat) (text line : String) :
    (onLevel size level text).addLine line
      = onLevel size level (text ++ written size [.line level line]) := by
  simp only [addLine, onLevel, written_singleton, Placed.text, indented, String.append_assoc]

theorem addBlank_onLevel (size level : Nat) (text : String) :
    (onLevel size level text).addBlank = onLevel size level (text ++ written size [.blank]) := by
  rw [written_singleton]
  rfl

mutual

/-- A step leads from level to level, and writes its lines. -/
theorem add_onLevel (size level : Nat) (text : String) (step : Step) :
    (onLevel size level text).add step
      = onLevel size (step.place level).1 (text ++ written size (step.place level).2) := by
  cases step with
  | deeper =>
      rw [Step.place, append_written_nil]
      exact deeper_onLevel size level text
  | back =>
      rw [Step.place, append_written_nil]
      exact back_onLevel size level text
  | line line => exact addLine_onLevel size level text line
  | blank => exact addBlank_onLevel size level text
  | block opening closing body =>
      -- The body may end at any level; the closing line stands one above that.
      rw [add, addLine_onLevel, deeper_onLevel, addAll_onLevel, back_onLevel, addLine_onLevel]
      simp only [Step.place, written_append, String.append_assoc]

/-- Steps lead from level to level, and write their lines. -/
theorem addAll_onLevel (size level : Nat) (text : String) (steps : List Step) :
    (onLevel size level text).addAll steps
      = onLevel size (placeAll level steps).1 (text ++ written size (placeAll level steps).2) := by
  cases steps with
  | nil =>
      rw [placeAll, append_written_nil]
      rfl
  | cons step steps =>
      rw [addAll, add_onLevel, addAll_onLevel]
      simp only [placeAll, written_append, String.append_assoc]

end

/-! ### Bodies that keep their level -/

mutual

/-- Nothing but blocks changes the level. -/
def Step.isStill : Step → Bool
  | .deeper | .back => false
  | .line _ | .blank => true
  | .block _ _ body => areStill body

/-- Nothing but blocks changes the level. -/
def areStill : List Step → Bool
  | [] => true
  | step :: steps => step.isStill && areStill steps

end

theorem areStill_cons {step : Step} {steps : List Step} (h : areStill (step :: steps) = true) :
    step.isStill = true ∧ areStill steps = true := by
  rwa [areStill, Bool.and_eq_true] at h

/-- Back from one level deeper is where one was. -/
theorem back_deeper (layout : Layout) (text : String) :
    back { layout.deeper with text } = { layout with text } := by
  simp only [back, deeper, if_pos (Nat.le_add_left _ _), Nat.add_sub_cancel]

/-- A step that changes the text only has added to it. -/
theorem add_of_text {layout : Layout} {step : Step} {text : String}
    (h : layout.add step = { layout with text }) :
    layout.add step = { layout with text := layout.text ++ layout.added step } := by
  rw [← text_add, h]

mutual

/-- A step that is still changes the text only. -/
theorem add_of_isStill {step : Step} (h : step.isStill = true) (layout : Layout) :
    layout.add step = { layout with text := layout.text ++ layout.added step } := by
  cases step with
  | deeper => cases h
  | back => cases h
  | line text => exact add_of_text rfl
  | blank => exact add_of_text rfl
  | block opening closing body =>
      -- The body comes back to where the opening line stands.
      have hbody : areStill body = true := h
      apply add_of_text
      rw [add, addAll_of_areStill hbody, back_deeper]
      rfl

/-- The steps of a still body all start at one level. -/
theorem addAll_of_areStill {steps : List Step} (h : areStill steps = true) (layout : Layout) :
    layout.addAll steps =
      { layout with text := layout.text ++ String.join (steps.map layout.added) } := by
  cases steps with
  | nil => rw [addAll, List.map_nil, String.join_nil, String.append_empty]
  | cons step steps =>
      obtain ⟨hstep, hsteps⟩ := areStill_cons h
      rw [addAll, add_of_isStill hstep, addAll_of_areStill hsteps, List.map_cons,
        String.join_cons, String.append_assoc]
      rfl

end

/-- A still body ends at its level. -/
theorem place_of_areStill {steps : List Step} (h : areStill steps = true) (level : Nat) :
    (placeAll level steps).1 = level := by
  -- Where a level takes one blank, the blanks are the level.
  have hcarried := congrArg indent (addAll_onLevel 1 level "" steps)
  rw [addAll_of_areStill h] at hcarried
  simpa only [onLevel, Nat.one_mul] using hcarried.symm

/-- A block with a still body closes where it was opened. -/
theorem added_block {body : List Step} (h : areStill body = true) (layout : Layout)
    (opening closing : String) :
    layout.added (.block opening closing body) =
      indented layout.indent opening ++ String.join (body.map layout.deeper.added)
        ++ indented layout.indent closing := by
  -- What a step adds depends on where it starts, and not on the opening line.
  have hinside : (addLine { layout with text := "" } opening).deeper.added = layout.deeper.added :=
    rfl
  rw [added, add, addAll_of_areStill h, back_deeper, hinside]
  simp only [addLine, deeper, indented, String.empty_append, String.append_assoc]

-- A body that goes deeper by itself has its block closed elsewhere.
example : render 2 [.block "[" "]" [.deeper, .line "x"]] = "[\n    x\n  ]\n" := by decide +kernel

/-- The text is that of lines with as many blanks as their level takes, and every
    step only adds to it. A body that is still ends at its level, so the block
    around it closes where it was opened, and its own lines all stand one level
    deeper. -/
theorem render_carries_level (size : Nat) (steps : List Step) :
    render size steps = written size (placeAll 0 steps).2 ∧
    (∀ (layout : Layout) (step : Step),
      (layout.add step).text = layout.text ++ layout.added step) ∧
    ∀ body : List Step, areStill body = true →
      (∀ level, (placeAll level body).1 = level) ∧
      ∀ layout : Layout,
        (layout.addAll body).indent = layout.indent ∧
        (∀ opening closing, layout.added (.block opening closing body) =
          indented layout.indent opening ++ String.join (body.map layout.deeper.added)
            ++ indented layout.indent closing) ∧
        ∀ text, layout.deeper.added (.line text) =
          indented (layout.indent + layout.size) text := by
  refine ⟨?_, text_add, fun body hbody => ⟨place_of_areStill hbody, fun layout => ⟨?_, ?_, ?_⟩⟩⟩
  · have hrun := congrArg Layout.text (addAll_onLevel size 0 "" steps)
    rwa [onLevel, onLevel, String.empty_append] at hrun
  · rw [addAll_of_areStill hbody]
  · exact added_block hbody layout
  · intro text
    simp only [added, add, addLine, deeper, indented, String.empty_append]

/-- A block in a block, at a level of two blanks. -/
theorem render_carries_level_nested :
    areStill [.line "x", .block "(" ")" [.blank, .line "y"]] = true ∧
      added { size := 2, indent := 2 }
          (.block "[" "]" [.line "x", .block "(" ")" [.blank, .line "y"]])
        = "  [\n    x\n    (\n\n      y\n    )\n  ]\n" := by
  have hstill : areStill [.line "x", .block "(" ")" [.blank, .line "y"]] = true := by decide
  have hbody := ((render_carries_level 2 []).2.2 _ hstill).2 { size := 2, indent := 2 }
  refine ⟨hstill, (hbody.2.1 "[" "]").trans ?_⟩
  decide +kernel

end Layout

end KeywordTable
