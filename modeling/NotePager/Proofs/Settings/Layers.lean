import NotePager.Proofs.Settings.Document
import NotePager.Proofs.Settings.Keys

/-!
# Settings from layers

Layers that give settings as leaves of their sections override one another key by key: what stands
for a setting is what the most important layer gives that gives anything, or the default
(`Settings.standing`). Settings are loaded exactly when what stands for each is of the right kind,
and then have these values (`Settings.load_layered`). What a more important layer replaces, and what
is no setting, has no part in it.
-/

namespace NotePager

namespace SettingValue

/-! ## Layers -/

/-- A dictionary whose sections, as far as it has them, are dictionaries. -/
structure IsLayer (v : SettingValue) : Prop where
  dictionary : v.IsDictionary
  sections : ∀ (key : SettingKey) child, v.get? key.sectionName = some child → child.IsDictionary

/-- Both are none, or both are some and alike. -/
abbrev AlikeIfAny : Option SettingValue → Option SettingValue → Prop := Option.Rel Alike

variable {a b base : SettingValue} {layers : List SettingValue}

theorem AlikeIfAny.refl : ∀ a? : Option SettingValue, AlikeIfAny a? a?
  | none => .none
  | some v => .some (Alike.refl v)

theorem AlikeIfAny.trans {a? b? c? : Option SettingValue} (hab : AlikeIfAny a? b?)
    (hbc : AlikeIfAny b? c?) : AlikeIfAny a? c? := by
  cases hab with
  | none => exact hbc
  | some hab =>
    cases hbc with
    | some hbc => exact .some (hab.trans hbc)

/-- `AlikeIfAny` is kept by `Option.or`. -/
theorem AlikeIfAny.or {a? b? c? d? : Option SettingValue} (hac : AlikeIfAny a? c?)
    (hbd : AlikeIfAny b? d?) : AlikeIfAny (a?.or b?) (c?.or d?) := by
  cases hac with
  | none => exact hbd
  | some hac => exact .some hac

/-- `Option.merge merge` is the later value up to `Alike`, or the earlier one if there is no
later. -/
theorem alike_merge (earlier? later? : Option SettingValue) :
    AlikeIfAny (Option.merge merge earlier? later?) (later?.or earlier?) := by
  cases earlier? with
  | none => cases later? <;> exact .refl _
  | some earlier =>
    cases later? with
    | none => exact .refl _
    | some later => exact .some (merge_alike earlier later)

/-- `merge` keeps `IsLayer`. -/
theorem IsLayer.merge (ha : a.IsLayer) (hb : b.IsLayer) : (a.merge b).IsLayer := by
  refine ⟨ha.dictionary.merge hb.dictionary, fun key child hchild => ?_⟩
  rw [get?_merge ha.dictionary hb.dictionary] at hchild
  cases hearlier : a.get? key.sectionName with
  | none =>
    rw [hearlier, Option.merge_none_left] at hchild
    exact hb.sections key child hchild
  | some earlier =>
    cases hlater : b.get? key.sectionName with
    | none =>
      rw [hlater, Option.merge_none_right] at hchild
      exact ha.sections key child hchild
    | some later =>
      rw [hearlier, hlater] at hchild
      cases hchild
      exact (ha.sections key earlier hearlier).merge (hb.sections key later hlater)

/-- `at?` of a merge is that of the later layer up to `Alike`, or that of the earlier one. -/
theorem at?_merge (ha : a.IsLayer) (hb : b.IsLayer) (key : SettingKey) :
    AlikeIfAny ((a.merge b).at? key) ((b.at? key).or (a.at? key)) := by
  rw [at?, get?_merge ha.dictionary hb.dictionary, at?, at?]
  cases hearlier : a.get? key.sectionName with
  | none =>
    rw [Option.merge_none_left, Option.bind_none, Option.or_none]
    exact .refl _
  | some earlier =>
    cases hlater : b.get? key.sectionName with
    | none => exact .refl _
    | some later =>
      have hfield := get?_merge (ha.sections key earlier hearlier) (hb.sections key later hlater)
        key.field
      rw [Option.merge_some_some, Option.bind_some, Option.bind_some, Option.bind_some, hfield]
      exact alike_merge _ _

/-- `List.findSome?` of a `List.filterMap`. -/
theorem findSome?_filterMap {f : α → Option β} {g : β → Option γ} (l : List α) :
    (l.filterMap f).findSome? g = l.findSome? fun a => (f a).bind g := by
  rw [← List.head?_filterMap, List.filterMap_filterMap, List.head?_filterMap]

/-- `at?` of layers merged in sequence is, up to `Alike`, that of the last layer that has one, or
that of the base. -/
theorem foldl_merge (hlayers : ∀ layer ∈ layers, layer.IsLayer) (hbase : base.IsLayer) :
    (layers.foldl SettingValue.merge base).IsLayer ∧ ∀ key : SettingKey,
      AlikeIfAny ((layers.foldl SettingValue.merge base).at? key)
        ((layers.reverse.findSome? (at? key)).or (base.at? key)) := by
  induction layers generalizing base with
  | nil => exact ⟨hbase, fun key => .refl _⟩
  | cons layer layers ih =>
    obtain ⟨hlayer, hfurther⟩ := List.forall_mem_cons.1 hlayers
    obtain ⟨hmerged, hat⟩ := ih hfurther (hbase.merge hlayer)
    refine ⟨hmerged, fun key => (hat key).trans ?_⟩
    rw [List.reverse_cons, List.findSome?_append, Option.or_assoc]
    -- The further layers are more important than this one, and this one than the base.
    refine (AlikeIfAny.refl _).or ((at?_merge hbase hlayer key).trans ?_)
    rw [List.findSome?_singleton]
    exact .refl _

end SettingValue

/-! ## Variables -/

namespace Environment

open SettingValue

/-- The path is that of a setting, or leads neither to nor through the place of one. -/
def IsLeaf (path : List String) : Prop :=
  ∀ key : SettingKey, path = key.path ∨ ¬ path <+: key.path ∧ ¬ key.path <+: path

instance (path : List String) : Decidable (IsLeaf path) :=
  inferInstanceAs (Decidable (∀ _ : SettingKey, _))

/-- The value that the variables give for a setting: that of the last one with its path. -/
def given? (vars : List (String × String)) (key : SettingKey) : Option SettingValue :=
  vars.reverse.findSome? fun var =>
    if path? var.1 = some key.path then some (ofText var.2) else none

/-- What one variable gives. -/
def layer? (var : String × String) : Option SettingValue :=
  (path? var.1).map fun path => atPath path (ofText var.2)

variable {path : List String} {vars : List (String × String)}

/-- `Environment.settings` merges what `layer?` makes of each variable. -/
theorem settings_eq (vars : List (String × String)) :
    settings vars = (vars.filterMap layer?).foldl SettingValue.merge (.table []) := by
  rw [settings, List.foldl_filterMap]
  congr 1
  funext settings var
  obtain ⟨name, value⟩ := var
  simp only [layer?]
  cases path? name <;> rfl

/-- `path?` is not empty. -/
theorem path?_ne_nil {name : String} (h : path? name = some path) : path ≠ [] := by
  rintro rfl
  simp only [path?] at h
  split at h
  · split at h
    · cases h
    · rename_i hnonempty
      rw [Option.some.injEq, List.map_eq_nil_iff] at h
      exact hnonempty (List.isEmpty_iff.2 h)
  · cases h

/-- `atPath` by the first key of the path. -/
theorem atPath_cons (k : String) (path : List String) (v : SettingValue) :
    atPath (k :: path) v = .table [(k, atPath path v)] := rfl

/-- A path of one key that `IsLeaf` is not the name of a section. -/
theorem ne_sectionName_of_isLeaf {k : String} (hleaf : IsLeaf [k]) (key : SettingKey) :
    k ≠ key.sectionName := by
  rintro rfl
  rcases hleaf key with heq | hnot
  · cases heq
  · exact hnot.1 ⟨[key.field], rfl⟩

/-- `atPath` of a leaf `IsLayer`. -/
theorem isLayer_atPath (hpath : path ≠ []) (hleaf : IsLeaf path) (v : SettingValue) :
    (atPath path v).IsLayer := by
  match path with
  | [k] =>
    refine ⟨isDictionary_singleton k v, fun key child hchild => ?_⟩
    rw [atPath_cons, get?_singleton, if_neg (ne_sectionName_of_isLeaf hleaf key).symm] at hchild
    cases hchild
  | k :: k' :: path =>
    refine ⟨isDictionary_singleton k _, fun key child hchild => ?_⟩
    rw [atPath_cons, get?_singleton] at hchild
    split at hchild
    · cases hchild
      exact isDictionary_singleton k' _
    · cases hchild

/-- `at?` of `atPath` is the value for the setting with this path, and nothing for the others. -/
theorem at?_atPath (hpath : path ≠ []) (hleaf : IsLeaf path) (v : SettingValue)
    (key : SettingKey) : (atPath path v).at? key = if path = key.path then some v else none := by
  match path with
  | [k] =>
    have hne : [k] ≠ key.path := by simp [SettingKey.path]
    rw [at?, atPath_cons, get?_singleton, if_neg (ne_sectionName_of_isLeaf hleaf key).symm,
      if_neg hne]
    rfl
  | k :: k' :: path =>
    have hpaths : k :: k' :: path = key.path
        ↔ key.sectionName = k ∧ key.field = k' ∧ path = [] := by
      rw [SettingKey.path, List.cons_eq_cons, List.cons_eq_cons, eq_comm, @eq_comm _ k']
    rw [at?, atPath_cons, get?_singleton]
    by_cases hk : key.sectionName = k
    · rw [if_pos hk, Option.bind_some, atPath_cons, get?_singleton]
      by_cases hk' : key.field = k'
      · -- The path leads to the setting, so it ends there.
        have hend : k :: k' :: path = key.path := by
          rcases hleaf key with heq | hnot
          · exact heq
          · exact absurd ⟨path, by rw [SettingKey.path, hk, hk']; rfl⟩ hnot.2
        rw [if_pos hk', if_pos hend, (hpaths.1 hend).2.2]
        rfl
      · rw [if_neg hk', if_neg fun heq => hk' (hpaths.1 heq).2.1]
    · rw [if_neg hk, if_neg fun heq => hk (hpaths.1 heq).1]
      rfl

/-- The paths of the variables, as far as they have some, are leaves. -/
def SetsLeaves (vars : List (String × String)) : Prop :=
  ∀ var ∈ vars, ∀ path ∈ path? var.1, IsLeaf path

instance (vars : List (String × String)) : Decidable (SetsLeaves vars) :=
  inferInstanceAs (Decidable (∀ var ∈ vars, ∀ path ∈ path? var.1, IsLeaf path))

/-- `Environment.settings` of variables that set leaves `IsLayer`, with `given?` for each setting up
to `Alike`. -/
theorem settings_spec (h : SetsLeaves vars) :
    (settings vars).IsLayer ∧ ∀ key, AlikeIfAny ((settings vars).at? key) (given? vars key) := by
  have hempty : (SettingValue.table []).IsLayer := ⟨⟨[], rfl, List.nodup_nil⟩, nofun⟩
  have hlayers : ∀ layer ∈ vars.filterMap layer?, layer.IsLayer := by
    intro layer hlayer
    obtain ⟨var, hvar, heq⟩ := List.mem_filterMap.1 hlayer
    obtain ⟨path, hpath, rfl⟩ := Option.map_eq_some_iff.1 heq
    exact isLayer_atPath (path?_ne_nil hpath) (h var hvar path hpath) _
  obtain ⟨hlayer, hat⟩ := foldl_merge hlayers hempty
  rw [settings_eq]
  refine ⟨hlayer, fun key => (hat key).trans ?_⟩
  have hlast : (vars.filterMap layer?).reverse.findSome? (at? key) = given? vars key := by
    rw [← List.filterMap_reverse, findSome?_filterMap, given?, ← List.head?_filterMap,
      ← List.head?_filterMap]
    congr 1
    refine List.filterMap_congr fun var hvar => ?_
    rw [layer?]
    cases hpath : path? var.1 with
    | none => rfl
    | some path =>
      have hleaf := h var (List.mem_reverse.1 hvar) path hpath
      rw [Option.map_some, Option.bind_some, at?_atPath (path?_ne_nil hpath) hleaf]
      simp only [Option.some.injEq]
  rw [hlast]
  cases given? vars key <;> exact .refl _

end Environment

/-! ## Files -/

namespace Toml

/-- The value is a table. -/
def isTable : SettingValue → Bool
  | .table _ => true
  | _ => false

/-- The text is a document whose sections, as far as it has them, are tables. -/
def SetsLeaves (text : String) : Prop :=
  ∃ tree ∈ parse? text, ∀ key : SettingKey, ∀ child ∈ tree.get? key.sectionName,
    isTable child = true

instance (text : String) : Decidable (SetsLeaves text) :=
  inferInstanceAs (Decidable (∃ tree, tree ∈ parse? text ∧ _))

/-- The value that a file gives for a setting. -/
def given? (key : SettingKey) (text : String) : Option SettingValue :=
  (parse? text).bind (SettingValue.at? key)

/-- A document that sets leaves `IsLayer`. -/
theorem isLayer_of_setsLeaves {text : String} (h : SetsLeaves text) :
    ∃ tree, parse? text = some tree ∧ tree.IsLayer := by
  obtain ⟨tree, htree, htables⟩ := h
  obtain ⟨hdictionary, hkeyed⟩ := parse?_keyed htree
  refine ⟨tree, htree, hdictionary, fun key child hchild => ?_⟩
  have htable := htables key child hchild
  cases child with
  | table entries => exact ⟨entries, rfl, hkeyed _ _ hchild entries rfl⟩
  | _ => cases htable

/-- `List.mapM` of `parse?` over documents that set leaves succeeds. -/
theorem mapM_parse? {files : List String} (h : ∀ text ∈ files, SetsLeaves text) :
    files.mapM parse? = some (files.filterMap parse?) := by
  induction files with
  | nil => rfl
  | cons text files ih =>
    obtain ⟨htext, hfiles⟩ := List.forall_mem_cons.1 h
    obtain ⟨tree, htree, -⟩ := isLayer_of_setsLeaves htext
    rw [List.mapM_cons, htree, ih hfiles, List.filterMap_cons_some htree]
    rfl

end Toml

/-! ## Loading -/

namespace Settings

open SettingValue

/-- The value that stands for a setting after the layers: that of the environment, or else of the
first file that gives one, or else the default. -/
def standing (files : List String) (vars : List (String × String)) (key : SettingKey) :
    SettingValue :=
  ((Environment.given? vars key).or (files.findSome? (Toml.given? key))).getD
    (({} : Settings).value key)

/-- The layers give settings as leaves of their sections. -/
structure SetsLeaves (files : List String) (vars : List (String × String)) : Prop where
  files : ∀ text ∈ files, Toml.SetsLeaves text
  vars : Environment.SetsLeaves vars

variable {files : List String} {vars : List (String × String)}

/-- The defaults are a layer with a value for every setting. -/
theorem isLayer_defaults :
    (layer {}).IsLayer ∧ ∀ key, (layer {}).at? key = some (value {} key) := by
  refine ⟨⟨⟨_, rfl, by decide⟩, fun key child hchild => ?_⟩, fun key => by cases key <;> rfl⟩
  cases key <;> cases hchild <;> exact ⟨_, rfl, by decide⟩

/-- The tree after all layers, of which the first file is more important than the others. -/
def merged (files : List String) (vars : List (String × String)) : SettingValue :=
  mergeLayers (files.reverse.filterMap Toml.parse? ++ [Environment.settings vars])

/-- `merged` has the `standing` value for every setting, up to `Alike`. -/
theorem at?_merged (h : SetsLeaves files vars) (key : SettingKey) :
    ∃ v, (merged files vars).at? key = some v ∧ v.Alike (standing files vars key) := by
  obtain ⟨henvironment, hvars⟩ := Environment.settings_spec h.vars
  have hlayers : ∀ layer ∈ files.reverse.filterMap Toml.parse? ++ [Environment.settings vars],
      layer.IsLayer := by
    rw [List.forall_mem_append, List.forall_mem_singleton]
    refine ⟨fun tree htree => ?_, henvironment⟩
    obtain ⟨text, htext, hparse⟩ := List.mem_filterMap.1 htree
    obtain ⟨tree', htree', hlayer⟩ :=
      Toml.isLayer_of_setsLeaves (h.files text (List.mem_reverse.1 htext))
    cases hparse.symm.trans htree'
    exact hlayer
  -- From the back, the environment comes first, then the files as given, then the defaults.
  have hmerged := (foldl_merge hlayers isLayer_defaults.1).2 key
  rw [List.reverse_append, List.reverse_singleton, ← List.filterMap_reverse, List.reverse_reverse,
    List.findSome?_append, List.findSome?_singleton, findSome?_filterMap, isLayer_defaults.2]
    at hmerged
  have hstanding : AlikeIfAny ((merged files vars).at? key) (some (standing files vars key)) := by
    rw [standing, ← Option.or_some]
    exact hmerged.trans (((hvars key).or (.refl _)).or (.refl _))
  cases hv : (merged files vars).at? key with
  | none => rw [hv] at hstanding; cases hstanding
  | some v =>
    rw [hv] at hstanding
    cases hstanding with
    | some halike => exact ⟨v, rfl, halike⟩

/-- `load` is `ofValue?` of `merged`. -/
theorem load_eq (h : SetsLeaves files vars) :
    load files.reverse vars = match ofValue? (merged files vars) with
      | none => .error .mistyped
      | some settings => .ok settings := by
  rw [load, Toml.mapM_parse? fun text htext => h.files text (List.mem_reverse.1 htext)]
  rfl

/-- `load` succeeds exactly when all `standing` values are of the right kinds, with the settings
that have these values. -/
theorem load_eq_ok_iff (h : SetsLeaves files vars) {s : Settings} :
    load files.reverse vars = .ok s ↔ ∀ key : SettingKey,
      key.Admits (standing files vars key) ∧ s.value key = standing files vars key := by
  choose v hv halike using at?_merged h
  have hmakes : load files.reverse vars = .ok s ↔ ofValue? (merged files vars) = some s := by
    rw [load_eq h]
    cases ofValue? (merged files vars) <;> simp
  rw [hmakes, ofValue?_eq_some_iff fun key => by rw [hv key]; rfl]
  refine forall_congr' fun key => ?_
  rw [hv key, Option.some.injEq]
  -- Of two values that are alike both are of the right kind or neither is, and then they are equal.
  constructor
  · rintro ⟨hadmits, heq⟩
    rw [← heq] at hadmits ⊢
    have hstands := hadmits.eq_of_alike (halike key).symm
    rw [hstands]
    exact ⟨hadmits, rfl⟩
  · rintro ⟨hadmits, heq⟩
    rw [heq]
    exact ⟨hadmits, hadmits.eq_of_alike (halike key)⟩

/-- `load` fails with `mistyped` only. -/
theorem eq_mistyped_of_load (h : SetsLeaves files vars) {e : SettingsError}
    (hload : load files.reverse vars = .error e) : e = .mistyped := by
  rw [load_eq h] at hload
  split at hload
  · cases hload
    rfl
  · cases hload

/-- The outcome is the one for these values: there are settings exactly if all the values are of the
right kinds, and then they have the values. -/
structure ComesFrom (outcome : Except SettingsError Settings) (w : SettingKey → SettingValue) :
    Prop where
  loads_iff : (∃ s, outcome = .ok s) ↔ ∀ key : SettingKey, key.Admits (w key)
  values : ∀ s, outcome = .ok s → ∀ key, s.value key = w key

/-- `load` `ComesFrom` the `standing` values. -/
theorem load_comesFrom (h : SetsLeaves files vars) :
    ComesFrom (load files.reverse vars) (standing files vars) := by
  refine ⟨⟨fun ⟨s, hs⟩ key => ((load_eq_ok_iff h).1 hs key).1, fun hadmits => ?_⟩,
    fun s hs key => ((load_eq_ok_iff h).1 hs key).2⟩
  obtain ⟨s, hs⟩ := exists_value hadmits
  exact ⟨s, (load_eq_ok_iff h).2 fun key => ⟨hadmits key, hs key⟩⟩

/-- `load` depends on the `standing` values only. -/
theorem load_congr {files' : List String} {vars' : List (String × String)}
    (h : SetsLeaves files vars) (h' : SetsLeaves files' vars')
    (hsame : ∀ key, standing files' vars' key = standing files vars key) :
    load files'.reverse vars' = load files.reverse vars := by
  have hok {s : Settings} :
      load files'.reverse vars' = .ok s ↔ load files.reverse vars = .ok s := by
    rw [load_eq_ok_iff h, load_eq_ok_iff h']
    simp only [hsame]
  cases hload : load files.reverse vars with
  | ok s => exact hok.2 hload
  | error e =>
    cases hload' : load files'.reverse vars' with
    | ok s => rw [hok.1 hload'] at hload; cases hload
    | error e' => rw [eq_mistyped_of_load h hload, eq_mistyped_of_load h' hload']

/-- `loadFound` and `loadFrom`, of layers that all set leaves, succeed exactly when the `standing`
value of every setting is of the right kind, with the settings that have these values; a value
stands if it comes from the environment, or else from the first of the files in the order working
directory, user and system, or else from the defaults. Both depend on the `standing` values only,
not on the values that are overridden, whatever their kinds, nor on keys that are no settings. -/
theorem load_layered :
    (∀ (files : SettingsFiles) (vars : List (String × String)), SetsLeaves files.found vars →
      ComesFrom (loadFound files vars) (standing files.found vars))
    ∧ (∀ (files files' : SettingsFiles) (vars vars' : List (String × String)),
      SetsLeaves files.found vars → SetsLeaves files'.found vars' →
      (∀ key, standing files'.found vars' key = standing files.found vars key) →
      loadFound files' vars' = loadFound files vars)
    ∧ (∀ (file : Option String) (vars : List (String × String)), SetsLeaves file.toList vars →
      ComesFrom (loadFrom file vars) (standing file.toList vars))
    ∧ ∀ (file file' : Option String) (vars vars' : List (String × String)),
      SetsLeaves file.toList vars → SetsLeaves file'.toList vars' →
      (∀ key, standing file'.toList vars' key = standing file.toList vars key) →
      loadFrom file' vars' = loadFrom file vars := by
  have hone (file : Option String) : file.toList.reverse = file.toList := by cases file <;> rfl
  refine ⟨fun files vars h => load_comesFrom h, fun files files' vars vars' h h' => load_congr h h',
    fun file vars h => ?_, fun file file' vars vars' h h' hsame => ?_⟩
  · have hload := load_comesFrom h
    rwa [hone] at hload
  · have hload := load_congr h h' hsame
    rwa [hone, hone] at hload

instance (files : List String) (vars : List (String × String)) :
    Decidable (SetsLeaves files vars) :=
  decidable_of_iff
    ((∀ text ∈ files, Toml.SetsLeaves text) ∧ Environment.SetsLeaves vars)
    ⟨fun h => ⟨h.1, h.2⟩, fun h => ⟨h.files, h.vars⟩⟩

/-- `load_layered` for a port that three layers give, the lower two not as a number, beside keys
that are no settings. -/
theorem load_layered_port :
    let files : SettingsFiles := {
      workingDirectory := some "color = 'red'\n[service]\nport = 'first'\nname = \"notes\"\n"
      user := some "service = \x7b port = [], log_level = 'debug', name = 1 \x7d\n" }
    let vars := [("NOTES_SERVICE__PORT", "none"), ("NOTES_COLOR", "1"), ("PATH", "/bin"),
      ("notes_service__port", " 9191 ")]
    let file := some "[service]\nname = 'notes'\nport = 9_191\nlog_level = 'debug'\n"
    let clean : SettingsFiles := { user := file }
    let s : Settings := { service := { name := "notes", port := 9191, logLevel := "debug" } }
    (SetsLeaves files.found vars ∧ loadFound files vars = .ok s
      ∧ ∀ key : SettingKey, key.Admits (standing files.found vars key)
        ∧ s.value key = standing files.found vars key)
      ∧ loadFound clean [] = loadFound files vars
      ∧ (SetsLeaves file.toList [] ∧ loadFrom file [] = .ok s
        ∧ ∀ key, s.value key = standing file.toList [] key)
      ∧ loadFrom file (vars.drop 1) = loadFrom file [] := by
  intro files vars file clean s
  obtain ⟨hfound, hsame, hfrom, hsameFrom⟩ := load_layered
  have hfiles : SetsLeaves files.found vars := by decide +kernel
  have hclean : SetsLeaves clean.found [] := by decide +kernel
  have hfile : SetsLeaves file.toList [] := by decide +kernel
  have hless : SetsLeaves file.toList (vars.drop 1) := by decide +kernel
  have hs : loadFound files vars = .ok s := by decide +kernel
  have hcleaned : loadFound clean [] = .ok s := by decide +kernel
  have hone : loadFrom file [] = .ok s := by decide +kernel
  have hmore : loadFrom file (vars.drop 1) = .ok s := by decide +kernel
  have hadmits := (hfound files vars hfiles).loads_iff.1 ⟨s, hs⟩
  have hvalues := (hfound files vars hfiles).values s hs
  have hvalues' := (hfrom file [] hfile).values s hone
  refine ⟨⟨hfiles, hs, fun key => ⟨hadmits key, hvalues key⟩⟩,
    hsame files clean vars [] hfiles hclean fun key => ?_, ⟨hfile, hone, hvalues'⟩,
    hsameFrom file file [] _ hfile hless fun key => ?_⟩
  · exact ((hfound clean [] hclean).values s hcleaned key).symm.trans (hvalues key)
  · exact ((hfrom file _ hless).values s hmore key).symm.trans (hvalues' key)

end Settings

end NotePager
