import KeywordTable.Proofs.Contents
import KeywordTable.Settings.Schema

/-!
# Documents That Are Settings Files

Which documents are settings files, and what they set, in terms of what stands
at the end of which path. `SettingsFile.Fits` looks at paths of one key and of
two. A first key has to name a group. There it asks for a table that has nothing
but strings under the names of settings, or for an array that begins with enough
strings. `Setting.Given` finds the text of a setting, by its key or by its place
in the array.

The reader goes through the entries of a table and stops at the first that does
not fit. Since no table has a key twice, going through the entries is the same
as asking for every key, and the list of settings that comes out has exactly
what the document gives.

## Main definitions

* `SettingGroup.Accepts`: The group can be read from the content.
* `SettingsFile.Fits`: The document is a settings file.
* `Setting.Given`: The document gives the setting the text.
* `Toml.Entries.layout`: What a table has, by walking down from key to key.

## Theorems

* `readItems_ok_iff`, `mem_readItems`: Reading a group from an array.
* `read_ok_iff`, `mem_read`: Reading a group.
* `ofEntries_ok_iff`: A table is read if and only if it fits.
* `value_ofEntries`: What is read is what the table gives.
-/

namespace KeywordTable

open Toml (Content PathLayout Node Key Entries Origin Span)

/-- The group can be read from the content that stands under its name: a table
    of strings under the names of settings, or an array that begins with as many
    strings as the group has settings. -/
def SettingGroup.Accepts (g : SettingGroup) (layout : PathLayout) : Content → Prop
  | .table => ∀ key c, layout [g.name, key] c →
      (∃ s ∈ g.settings, s.name = key) ∧ ∃ text, c = .string text
  | .array texts => g.settings.length ≤ texts.length ∧
      ∀ text? ∈ texts.take g.settings.length, text?.isSome
  | _ => False

/-- Every key of the document is a group that can be read. -/
def SettingsFile.Fits (layout : PathLayout) : Prop :=
  ∀ name c, layout [name] c → ∃ g : SettingGroup, g.name = name ∧ g.Accepts layout c

/-- The document gives the setting the text, by its key or by its place in an
    array. -/
def Setting.Given (s : Setting) (layout : PathLayout) (text : String) : Prop :=
  layout [s.group.name, s.name] (.string text) ∨
    ∃ (texts : List (Option String)) (i : Nat), layout [s.group.name] (.array texts) ∧
      s.group.settings[i]? = some s ∧ texts[i]? = some (some text)

/-! ### Names -/

theorem ofName_eq_some_iff (name : String) (g : SettingGroup) :
    SettingGroup.ofName? name = some g ↔ g.name = name := by
  constructor
  · intro h
    have hname := List.find?_some h
    exact beq_iff_eq.mp hname
  · rintro rfl
    cases g <;> decide

theorem find_setting_iff (g : SettingGroup) (name : String) (s : Setting) :
    g.find? name = some s ↔ s ∈ g.settings ∧ s.name = name := by
  constructor
  · intro h
    have hname := List.find?_some h
    exact ⟨List.mem_of_find?_eq_some h, beq_iff_eq.mp hname⟩
  · rintro ⟨hmem, rfl⟩
    revert s
    cases g <;> decide

theorem mem_settings_iff (g : SettingGroup) (s : Setting) : s ∈ g.settings ↔ s.group = g := by
  cases g <;> cases s <;> decide

/-- Groups have different names, since each is found by its name. -/
theorem SettingGroup.name_injective {g g' : SettingGroup} (h : g.name = g'.name) : g = g' := by
  have hg := (ofName_eq_some_iff g.name g).mpr rfl
  have hg' := (ofName_eq_some_iff g.name g').mpr h.symm
  exact Option.some.inj (hg.symm.trans hg')

/-- Settings of one group have different names. -/
theorem Setting.name_injective {s s' : Setting} (hgroup : s.group = s'.group)
    (h : s.name = s'.name) : s = s' := by
  have hs := (find_setting_iff s.group s.name s).mpr ⟨(mem_settings_iff ..).mpr rfl, rfl⟩
  have hs' := (find_setting_iff s.group s.name s').mpr
    ⟨(mem_settings_iff ..).mpr hgroup.symm, h.symm⟩
  exact Option.some.inj (hs.symm.trans hs')

/-! ### Reading one after the other -/

section

variable {α β ε : Type} {f : α → Except ε β}

/-- Reading all of a list succeeds if reading each of it does. -/
theorem exists_mapM {as : List α} (h : ∀ a ∈ as, ∃ b, f a = .ok b) :
    ∃ bs, as.mapM f = .ok bs := by
  induction as with
  | nil => exact ⟨[], rfl⟩
  | cons a as ih =>
      rcases h a List.mem_cons_self with ⟨b, hb⟩
      rcases ih (fun a' ha' => h a' (List.mem_cons_of_mem a ha')) with ⟨bs, hbs⟩
      refine ⟨b :: bs, ?_⟩
      rw [List.mapM_cons, hb, hbs]
      rfl

/-- What comes out of reading a list is what comes out of reading each of it. -/
theorem mem_mapM {as : List α} {bs : List β} (h : as.mapM f = .ok bs) :
    (∀ a ∈ as, ∃ b, f a = .ok b) ∧ ∀ b, b ∈ bs ↔ ∃ a ∈ as, f a = .ok b := by
  induction as generalizing bs with
  | nil =>
      rw [← Except.ok.inj h]
      exact ⟨fun a ha => absurd ha List.not_mem_nil,
        fun b => iff_of_false List.not_mem_nil fun ⟨_, ha, _⟩ => absurd ha List.not_mem_nil⟩
  | cons a as ih =>
      rw [List.mapM_cons] at h
      cases ha : f a with
      | error e => rw [ha] at h; cases h
      | ok b =>
          cases has : as.mapM f with
          | error e => rw [ha, has] at h; cases h
          | ok bs' =>
              rw [ha, has] at h
              rw [← Except.ok.inj h]
              rcases ih has with ⟨hall, hmem⟩
              refine ⟨fun a' ha' => ?_, fun b' => ?_⟩
              · rcases List.mem_cons.mp ha' with rfl | ha'
                · exact ⟨b, ha⟩
                · exact hall a' ha'
              · simp only [List.mem_cons, hmem, exists_eq_or_imp, ha, Except.ok.injEq]
                exact or_congr_left eq_comm

end

/-! ### Reading a group -/

theorem text_eq_some_iff (n : Node) (text : String) :
    n.text? = some text ↔ n.content = .string text := by
  cases n with
  | scalar x span =>
      cases x <;> simp only [Node.text?, Node.content, Option.some.injEq, Content.string.injEq,
        reduceCtorEq]
  | array items span => simp only [Node.text?, Node.content, reduceCtorEq]
  | table origin es span => simp only [Node.text?, Node.content, reduceCtorEq]
  | tables items => simp only [Node.text?, Node.content, reduceCtorEq]

theorem read_setting_ok_iff (s : Setting) (n : Node) (text : String) :
    s.read n = .ok text ↔ n.text? = some text := by
  cases n with
  | scalar x span =>
      cases x <;> simp only [Setting.read, Node.text?, Except.ok.injEq, Option.some.injEq,
        reduceCtorEq]
  | array items span => simp only [Setting.read, Node.text?, reduceCtorEq]
  | table origin es span => simp only [Setting.read, Node.text?, reduceCtorEq]
  | tables items => simp only [Setting.read, Node.text?, reduceCtorEq]

namespace SettingGroup

theorem readEntry_ok_iff (g : SettingGroup) (e : Key × Node) (s : Setting) (text : String) :
    g.readEntry e = .ok (s, text) ↔
      (s ∈ g.settings ∧ s.name = e.1.name) ∧ e.2.text? = some text := by
  rcases e with ⟨key, n⟩
  rw [← find_setting_iff]
  unfold readEntry
  cases hfind : g.find? key.name with
  | none =>
      simp only [hfind]
      exact iff_of_false (fun h => nomatch h) fun h => nomatch h.1
  | some s' =>
      simp only [hfind, Option.some.injEq, ← read_setting_ok_iff s']
      cases hread : s'.read n with
      | error p => exact iff_of_false (fun h => nomatch h) fun h => nomatch h.2
      | ok text' =>
          have hmap : Except.map (fun x => (s', x)) (Except.ok text' : Except Problem String) =
              .ok (s', text') := rfl
          rw [hmap, Except.ok.injEq, Except.ok.injEq, Prod.mk.injEq]

/-- An array is read if it begins with a string for each of the settings. -/
theorem readItems_ok_iff (g : SettingGroup) (span : Span) (length : Nat) (ss : List Setting)
    (nodes : List Node) :
    (∃ vs, g.readItems span length ss nodes = .ok vs) ↔ ss.length ≤ nodes.length ∧
      ∀ text? ∈ (nodes.map Node.text?).take ss.length, text?.isSome := by
  induction ss generalizing nodes with
  | nil =>
      refine iff_of_true ⟨[], by rw [readItems]⟩ ⟨Nat.zero_le _, fun text? h => ?_⟩
      rw [List.length_nil, List.take_zero] at h
      exact absurd h List.not_mem_nil
  | cons s ss ih =>
      cases nodes with
      | nil =>
          rw [readItems]
          exact iff_of_false (fun ⟨_, h⟩ => nomatch h) fun h => nomatch h.1
      | cons n nodes =>
          rw [readItems, List.length_cons, List.length_cons, Nat.add_le_add_iff_right,
            List.map_cons, List.take_succ_cons, List.forall_mem_cons]
          cases hread : s.read n with
          | error p =>
              -- An item that is no string is refused, and would not fit.
              have htext : ¬ n.text?.isSome = true := by
                intro h
                rcases Option.isSome_iff_exists.mp h with ⟨text, htext⟩
                rw [← read_setting_ok_iff s, hread] at htext
                cases htext
              exact iff_of_false (fun ⟨_, h⟩ => nomatch h) fun h => htext h.2.1
          | ok text =>
              have htext := (read_setting_ok_iff s n text).mp hread
              rw [htext]
              have hrest := ih nodes
              cases hitems : g.readItems span length ss nodes with
              | error p =>
                  rw [hitems] at hrest
                  refine iff_of_false (fun ⟨_, h⟩ => nomatch h) fun h => ?_
                  rcases hrest.mpr ⟨h.1, h.2.2⟩ with ⟨_, hvs⟩
                  cases hvs
              | ok vs =>
                  rw [hitems] at hrest
                  rcases hrest.mp ⟨vs, rfl⟩ with ⟨hlength, hall⟩
                  exact iff_of_true ⟨_, rfl⟩ ⟨hlength, rfl, hall⟩

/-- An array gives each setting the text at its place. -/
theorem mem_readItems {g : SettingGroup} {span : Span} {length : Nat} {ss : List Setting}
    {nodes : List Node} {vs : List (Setting × String)}
    (h : g.readItems span length ss nodes = .ok vs) (s : Setting) (text : String) :
    (s, text) ∈ vs ↔
      ∃ i : Nat, ss[i]? = some s ∧ (nodes.map Node.text?)[i]? = some (some text) := by
  induction ss generalizing nodes vs with
  | nil =>
      rw [readItems] at h
      rw [← Except.ok.inj h]
      refine iff_of_false List.not_mem_nil ?_
      rintro ⟨i, hi, -⟩
      rw [List.getElem?_nil] at hi
      cases hi
  | cons s' ss ih =>
      cases nodes with
      | nil => rw [readItems] at h; cases h
      | cons n nodes =>
          -- Unless the item and those after it are read there is no answer.
          rw [readItems] at h
          cases hread : s'.read n with
          | error p => rw [hread] at h; cases h
          | ok text' =>
              cases hitems : g.readItems span length ss nodes with
              | error p => rw [hread, hitems] at h; cases h
              | ok vs' =>
                  rw [hread, hitems] at h
                  have htext := (read_setting_ok_iff s' n text').mp hread
                  rw [← Except.ok.inj h, List.mem_cons, ih hitems, Prod.mk.injEq, List.map_cons,
                    htext]
                  -- Place zero is the item in front, and the rest are one further on.
                  constructor
                  · rintro (⟨rfl, rfl⟩ | ⟨i, hi, htexts⟩)
                    · exact ⟨0, rfl, rfl⟩
                    · exact ⟨i + 1, hi, htexts⟩
                  · rintro ⟨i, hi, htexts⟩
                    cases i with
                    | zero =>
                        exact Or.inl ⟨(Option.some.inj hi).symm,
                          (Option.some.inj (Option.some.inj htexts)).symm⟩
                    | succ i => exact Or.inr ⟨i, hi, htexts⟩

end SettingGroup

/-! ### Reading a table -/

/-- What a table has, by walking down from key to key. -/
def Toml.Entries.layout (es : Entries) : PathLayout :=
  fun q c => (Node.table .header es default).at? q = some c

theorem layout_one_iff (es : Entries) (name : String) (c : Content) :
    es.layout [name] c ↔ ∃ n, es.find? name = some n ∧ n.content = c := by
  unfold Entries.layout
  rw [Node.at?, Option.bind_eq_some_iff]
  simp only [Node.at?, Option.some.injEq]

/-- Two keys lead into a table that stands under the first. -/
theorem layout_two_iff (es : Entries) (name key : String) (c : Content) :
    es.layout [name, key] c ↔ ∃ origin inner span, es.find? name = some (.table origin inner span) ∧
      ∃ n, Entries.find? key inner = some n ∧ n.content = c := by
  unfold Entries.layout
  rw [Node.at?, Option.bind_eq_some_iff]
  constructor
  · rintro ⟨n, hfind, hat⟩
    cases n with
    | table origin inner span =>
        rw [Node.at?, Option.bind_eq_some_iff] at hat
        rcases hat with ⟨m, hm, hcontent⟩
        exact ⟨origin, inner, span, hfind, m, hm, Option.some.inj hcontent⟩
    | scalar x span => cases hat
    | array items span => cases hat
    | tables items => cases hat
  · rintro ⟨origin, inner, span, hfind, n, hn, rfl⟩
    refine ⟨_, hfind, ?_⟩
    rw [Node.at?, hn]
    rfl

section

variable {es : Entries} {g : SettingGroup} {n : Node}

/-- A group is read if and only if its node is one that the group accepts. -/
theorem read_ok_iff (hfind : es.find? g.name = some n) (hdistinct : n.Distinct) :
    (∃ vs, g.read n = .ok vs) ↔ g.Accepts es.layout n.content := by
  cases n with
  | scalar x span =>
      cases x <;> exact iff_of_false (fun ⟨_, h⟩ => nomatch h) fun h => h
  | array items span =>
      rw [SettingGroup.read, SettingGroup.readItems_ok_iff, Node.content, SettingGroup.Accepts,
        List.length_map]
  | tables items =>
      rw [SettingGroup.read, SettingGroup.readItems_ok_iff]
      refine iff_of_false ?_ fun h => h
      rintro ⟨hlength, hall⟩
      -- The first item would have to be a string, and it is a table.
      have hpos : 0 < g.settings.length := by cases g <;> decide
      cases items with
      | nil => exact absurd hlength (Nat.not_le_of_lt hpos)
      | cons item items =>
          rcases Nat.exists_eq_succ_of_ne_zero (Nat.pos_iff_ne_zero.mp hpos) with ⟨k, hk⟩
          rw [hk] at hall
          exact absurd (hall none List.mem_cons_self) Bool.false_ne_true
  | table origin inner span =>
      cases hdistinct with
      | table _ _ hnodup _ =>
        rw [SettingGroup.read]
        constructor
        · rintro ⟨vs, hvs⟩ key c hlayout
          rcases (layout_two_iff ..).mp hlayout with ⟨_, _, _, hfind', m, hm, rfl⟩
          rw [hfind, Option.some.injEq, Node.table.injEq] at hfind'
          rw [← hfind'.2.1] at hm
          rcases Entries.mem_of_find hm with ⟨k, rfl, hmem⟩
          rcases (mem_mapM hvs).1 (k, m) hmem with ⟨⟨s, text⟩, hread⟩
          rcases (g.readEntry_ok_iff ..).mp hread with ⟨hs, htext⟩
          exact ⟨⟨s, hs⟩, text, (text_eq_some_iff m text).mp htext⟩
        · intro haccepts
          refine exists_mapM fun e he => ?_
          have hlayout : es.layout [g.name, e.1.name] e.2.content := by
            rw [layout_two_iff]
            exact ⟨origin, inner, span, hfind, e.2, Entries.find_of_mem hnodup he, rfl⟩
          rcases haccepts e.1.name _ hlayout with ⟨⟨s, hs⟩, text, htext⟩
          exact ⟨(s, text), (g.readEntry_ok_iff ..).mpr ⟨hs, (text_eq_some_iff ..).mpr htext⟩⟩

/-- What a group is read as is what the table gives to its settings. -/
theorem mem_read (hfind : es.find? g.name = some n) (hdistinct : n.Distinct)
    {vs : List (Setting × String)} (hread : g.read n = .ok vs) (s : Setting) (text : String) :
    (s, text) ∈ vs ↔ s.group = g ∧ s.Given es.layout text := by
  cases n with
  | scalar x span => cases x <;> cases hread
  | tables items => exact ((read_ok_iff hfind hdistinct).mp ⟨vs, hread⟩).elim
  | array items span =>
      -- An array gives by place, and no key is below it.
      rw [SettingGroup.read] at hread
      rw [SettingGroup.mem_readItems hread]
      constructor
      · rintro ⟨i, hi, htext⟩
        have hgroup : s.group = g := (mem_settings_iff g s).mp (List.mem_of_getElem? hi)
        subst hgroup
        exact ⟨rfl, Or.inr ⟨_, i, (layout_one_iff ..).mpr ⟨_, hfind, rfl⟩, hi, htext⟩⟩
      · rintro ⟨rfl, hkey | ⟨texts, i, harray, hi, htext⟩⟩
        · -- A key below the group would make it a table.
          rcases (layout_two_iff ..).mp hkey with ⟨_, _, _, hfind', _⟩
          rw [hfind] at hfind'
          cases hfind'
        · rcases (layout_one_iff ..).mp harray with ⟨m, hm, hcontent⟩
          rw [hfind, Option.some.injEq] at hm
          subst hm
          rw [← Content.array.inj hcontent] at htext
          exact ⟨i, hi, htext⟩
  | table origin inner span =>
      cases hdistinct with
      | table _ _ hnodup _ =>
        -- Names are distinct, so an entry is what its name leads to.
        rw [SettingGroup.read] at hread
        rw [(mem_mapM hread).2]
        constructor
        · rintro ⟨e, he, hentry⟩
          rcases (g.readEntry_ok_iff ..).mp hentry with ⟨⟨hs, hname⟩, htext⟩
          have hgroup : s.group = g := (mem_settings_iff g s).mp hs
          subst hgroup
          refine ⟨rfl, Or.inl ((layout_two_iff ..).mpr ⟨origin, inner, span, hfind, e.2, ?_, ?_⟩)⟩
          · rw [hname, Entries.find_of_mem hnodup he]
          · exact (text_eq_some_iff ..).mp htext
        · rintro ⟨rfl, hkey | ⟨texts, i, harray, -, -⟩⟩
          · -- The key leads to an entry of this table, which is one of those read.
            rcases (layout_two_iff ..).mp hkey with ⟨_, _, _, hfind', m, hm, hcontent⟩
            rw [hfind, Option.some.injEq, Node.table.injEq] at hfind'
            rw [← hfind'.2.1] at hm
            rcases Entries.mem_of_find hm with ⟨k, hk, hmem⟩
            refine ⟨(k, m), hmem, (SettingGroup.readEntry_ok_iff ..).mpr ⟨⟨?_, hk.symm⟩, ?_⟩⟩
            · exact (mem_settings_iff _ s).mpr rfl
            · exact (text_eq_some_iff ..).mpr hcontent
          · -- The group is a table, so it is not an array as well.
            rcases (layout_one_iff ..).mp harray with ⟨m, hm, hcontent⟩
            rw [hfind, Option.some.injEq] at hm
            subst hm
            cases hcontent

end

theorem readTop_ok_iff (e : Key × Node) (vs : List (Setting × String)) :
    SettingGroup.readTop e = .ok vs ↔
      ∃ g : SettingGroup, g.name = e.1.name ∧ g.read e.2 = .ok vs := by
  rcases e with ⟨key, n⟩
  unfold SettingGroup.readTop
  cases hname : SettingGroup.ofName? key.name with
  | none =>
      simp only [hname]
      refine iff_of_false (fun h => nomatch h) ?_
      rintro ⟨g, hg, -⟩
      rw [(ofName_eq_some_iff ..).mpr hg] at hname
      cases hname
  | some g =>
      simp only [hname]
      constructor
      · exact fun h => ⟨g, (ofName_eq_some_iff ..).mp hname, h⟩
      · rintro ⟨g', hg', h⟩
        rw [(ofName_eq_some_iff ..).mpr hg'] at hname
        rw [← Option.some.inj hname]
        exact h

/-- The groups that are read from a table are those of its keys. -/
theorem ofEntries_eq_ok {es : Entries} {file : SettingsFile}
    (h : SettingsFile.ofEntries es = .ok file) :
    ∃ values, es.mapM SettingGroup.readTop = .ok values ∧
      file = SettingsFile.ofList values.flatten := by
  unfold SettingsFile.ofEntries at h
  cases hvalues : es.mapM SettingGroup.readTop with
  | error p => rw [hvalues] at h; cases h
  | ok values =>
      rw [hvalues] at h
      exact ⟨values, rfl, (Except.ok.inj h).symm⟩

section

variable {es : Entries} (hdistinct : ∀ origin span, (Node.table origin es span).Distinct)
include hdistinct

/-- A table is read if and only if it fits. -/
theorem ofEntries_ok_iff :
    (∃ file, SettingsFile.ofEntries es = .ok file) ↔ SettingsFile.Fits es.layout := by
  cases hdistinct .header default with
  | table _ _ hnodup hinner =>
    constructor
    · rintro ⟨file, hfile⟩ name c hlayout
      rcases ofEntries_eq_ok hfile with ⟨values, hvalues, -⟩
      rcases (layout_one_iff ..).mp hlayout with ⟨n, hfind, rfl⟩
      -- What stands at a name is an entry, and every entry has been read.
      rcases Entries.mem_of_find hfind with ⟨k, rfl, hmem⟩
      rcases (mem_mapM hvalues).1 (k, n) hmem with ⟨vs, hvs⟩
      rcases (readTop_ok_iff ..).mp hvs with ⟨g, hg, hread⟩
      rw [← hg] at hfind
      exact ⟨g, hg, (read_ok_iff hfind (hinner _ hmem)).mp ⟨vs, hread⟩⟩
    · intro hfits
      -- Distinct names put each entry into the layout, where it has to fit.
      have hall : ∀ e ∈ es, ∃ vs, SettingGroup.readTop e = .ok vs := by
        intro e he
        have hfind := Entries.find_of_mem hnodup he
        rcases hfits e.1.name _ ((layout_one_iff ..).mpr ⟨_, hfind, rfl⟩) with ⟨g, hg, haccepts⟩
        rw [← hg] at hfind
        rcases (read_ok_iff hfind (hinner e he)).mpr haccepts with ⟨vs, hvs⟩
        exact ⟨vs, (readTop_ok_iff ..).mpr ⟨g, hg, hvs⟩⟩
      rcases exists_mapM hall with ⟨values, hvalues⟩
      refine ⟨SettingsFile.ofList values.flatten, ?_⟩
      unfold SettingsFile.ofEntries
      rw [hvalues]
      rfl

/-- The settings that are read from a table are those that the table gives. -/
theorem mem_values {values : List (List (Setting × String))}
    (hvalues : es.mapM SettingGroup.readTop = .ok values) (s : Setting) (text : String) :
    (s, text) ∈ values.flatten ↔ s.Given es.layout text := by
  cases hdistinct .header default with
  | table _ _ hnodup hinner =>
    rw [List.mem_flatten]
    constructor
    · rintro ⟨vs, hvs, hmem⟩
      rcases ((mem_mapM hvalues).2 vs).mp hvs with ⟨e, he, htop⟩
      rcases (readTop_ok_iff ..).mp htop with ⟨g, hg, hread⟩
      have hfind := Entries.find_of_mem hnodup he
      rw [← hg] at hfind
      exact ((mem_read hfind (hinner e he) hread s text).mp hmem).2
    · intro hgives
      -- Either way of giving a setting has the name of its group as a key.
      have hkey : ∃ n, es.find? s.group.name = some n := by
        rcases hgives with hkey | ⟨texts, i, harray, -, -⟩
        · rcases (layout_two_iff ..).mp hkey with ⟨origin, inner, span, hfind, -⟩
          exact ⟨_, hfind⟩
        · rcases (layout_one_iff ..).mp harray with ⟨n, hfind, -⟩
          exact ⟨n, hfind⟩
      rcases hkey with ⟨n, hfind⟩
      rcases Entries.mem_of_find hfind with ⟨k, hk, hmem⟩
      rcases (mem_mapM hvalues).1 (k, n) hmem with ⟨vs, htop⟩
      refine ⟨vs, ((mem_mapM hvalues).2 vs).mpr ⟨(k, n), hmem, htop⟩, ?_⟩
      rcases (readTop_ok_iff ..).mp htop with ⟨g, hg, hread⟩
      -- Groups differ in their names, so this key is read by that group.
      have hgroup : g = s.group := SettingGroup.name_injective (hg.trans hk)
      subst hgroup
      exact (mem_read hfind (hinner _ hmem) hread s text).mpr ⟨rfl, hgives⟩

end

/-- A table gives a setting one text at most. -/
theorem gives_unique {es : Entries} {s : Setting} {text text' : String}
    (h : s.Given es.layout text) (h' : s.Given es.layout text') : text = text' := by
  have hsame : ∀ q c c', es.layout q c → es.layout q c' → c = c' :=
    fun q c c' hc hc' => Option.some.inj (hc.symm.trans hc')
  have hinside : ∀ c texts, es.layout [s.group.name, s.name] c →
      ¬ es.layout [s.group.name] (.array texts) := by
    intro c texts hkey harray
    rcases (layout_two_iff ..).mp hkey with ⟨_, _, _, hfind, -⟩
    cases hsame _ _ _ harray ((layout_one_iff ..).mpr ⟨_, hfind, rfl⟩)
  rcases h with hkey | ⟨texts, i, harray, hi, htext⟩ <;>
    rcases h' with hkey' | ⟨texts', i', harray', hi', htext'⟩
  · exact Content.string.inj (hsame _ _ _ hkey hkey')
  · exact absurd harray' (hinside _ _ hkey)
  · exact absurd harray (hinside _ _ hkey')
  · -- No setting comes twice in its group, so the places are the same.
    have hnodup : s.group.settings.Nodup := by cases s <;> decide
    rcases List.getElem?_eq_some_iff.mp hi with ⟨hlt, -⟩
    have hplace : i = i' := (List.getElem?_inj hlt hnodup).mp (hi.trans hi'.symm)
    subst hplace
    cases hsame _ _ _ harray harray'
    exact Option.some.inj (Option.some.inj (htext.symm.trans htext'))

/-- A table is read as what it gives. -/
theorem value_ofEntries {es : Entries}
    (hdistinct : ∀ origin span, (Node.table origin es span).Distinct) {file : SettingsFile}
    (h : SettingsFile.ofEntries es = .ok file) (s : Setting) (text : String) :
    file.value? s = some text ↔ s.Given es.layout text := by
  rcases ofEntries_eq_ok h with ⟨values, hvalues, rfl⟩
  have hmem := mem_values hdistinct hvalues
  have hfound : ∀ text, List.lookup s values.flatten = some text → s.Given es.layout text := by
    intro text hlookup
    rcases List.lookup_eq_some_iff.mp hlookup with ⟨before, after, hsplit, -⟩
    rw [← hmem, hsplit]
    exact List.mem_append_right before List.mem_cons_self
  refine ⟨hfound text, fun hgives => ?_⟩
  cases hlookup : List.lookup s values.flatten with
  | none =>
      have hne := List.lookup_eq_none_iff.mp hlookup (s, text) ((hmem s text).mpr hgives)
      exact absurd rfl (bne_iff_ne.mp hne)
  | some text' =>
      rw [gives_unique hgives (hfound text' hlookup)]
      exact hlookup

/-! ### Comparing what is given -/

/-- The less there is, the more of it fits. -/
theorem SettingsFile.Fits.mono {layout layout' : PathLayout} (h : SettingsFile.Fits layout)
    (hsub : ∀ q c, layout' q c → layout q c) : SettingsFile.Fits layout' := by
  intro name c hc
  rcases h name c (hsub _ _ hc) with ⟨g, hg, haccepts⟩
  refine ⟨g, hg, ?_⟩
  cases c with
  | table => exact fun key c' hc' => haccepts key c' (hsub _ _ hc')
  | array texts => exact haccepts
  | string text => exact haccepts
  | tables => exact haccepts
  | other => exact haccepts

/-- In a table that fits there is no array of tables within two keys. -/
theorem not_tables_of_fits {es : Entries} (h : SettingsFile.Fits es.layout) {q : List String}
    (hlength : q.length ≤ 2) : ¬ es.layout q .tables := by
  intro htables
  match q, hlength with
  | [], _ => cases htables
  | [name], _ =>
      rcases h name .tables htables with ⟨g, -, haccepts⟩
      exact haccepts
  | [name, key], _ =>
      rcases (layout_two_iff ..).mp htables with ⟨origin, inner, span, hfind, -⟩
      rcases h name .table ((layout_one_iff ..).mpr ⟨_, hfind, rfl⟩) with ⟨g, rfl, haccepts⟩
      rcases haccepts key .tables htables with ⟨-, text, htext⟩
      cases htext

section

variable {es : Entries} {layout : PathLayout} (h : es.Agrees layout)
include h

/-- As far as settings go, a table that fits has exactly what it was compared
    with. -/
theorem layout_iff_of_fits (hfits : SettingsFile.Fits es.layout) {q : List String}
    (hlength : q.length ≤ 2) (c : Content) : layout q c ↔ es.layout q c := by
  have hnode := (Toml.agrees_table_iff .header es default layout).mpr h
  refine ⟨fun hc => ?_, hnode.sound q c⟩
  rcases hnode.complete q c hc with hat | ⟨a, hprefix, htables⟩
  · exact hat
  · have ha : a.length ≤ 2 := Nat.le_trans hprefix.length_le hlength
    exact absurd htables (not_tables_of_fits hfits ha)

/-- A table fits if and only if what it was compared with does. -/
theorem fits_layout_iff : SettingsFile.Fits es.layout ↔ SettingsFile.Fits layout := by
  have hnode := (Toml.agrees_table_iff .header es default layout).mpr h
  constructor
  · intro hfits name c hc
    have hname := (layout_iff_of_fits (q := [name]) h hfits (Nat.le_succ 1) c).mp hc
    rcases hfits name c hname with ⟨g, hg, haccepts⟩
    refine ⟨g, hg, ?_⟩
    cases c with
    | table =>
        intro key c' hc'
        have hkey := (layout_iff_of_fits (q := [g.name, key]) h hfits (Nat.le_refl 2) c').mp hc'
        exact haccepts key c' hkey
    | array texts => exact haccepts
    | string text => exact haccepts
    | tables => exact haccepts
    | other => exact haccepts
  · exact fun hfits => hfits.mono hnode.sound

/-- So does what it gives. -/
theorem gives_layout_iff (hfits : SettingsFile.Fits es.layout) (s : Setting) (text : String) :
    s.Given es.layout text ↔ s.Given layout text := by
  have hone : ∀ name c, layout [name] c ↔ es.layout [name] c :=
    fun _ => layout_iff_of_fits h hfits (Nat.le_succ 1)
  have htwo : ∀ name key c, layout [name, key] c ↔ es.layout [name, key] c :=
    fun _ _ => layout_iff_of_fits h hfits (Nat.le_refl 2)
  unfold Setting.Given
  simp only [hone, htwo]

end

end KeywordTable
