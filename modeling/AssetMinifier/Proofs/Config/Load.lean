import AssetMinifier.Proofs.Config.Setting
import AssetMinifier.Proofs.Yaml.Table

/-!
# Every setting by itself

The flags that were given lie over the environment, the environment over the
file and the file over the defaults.  Loading takes the value of each setting
from the topmost layer that has one, and decodes these values and nothing else.
-/

namespace AssetMinifier

namespace Config

theorem nodup_keys_fileLayer
    {fs : FileSystem} {file : Text} {table : Layer}
    (h : fileLayer fs file = .ok table) :
    table.keys.Nodup := by
  rw [fileLayer] at h
  split at h
  · cases h
    exact List.nodup_nil
  · split at h
    · cases h
    · split at h
      · cases h
      · rename_i htable
        cases h
        exact Yaml.nodup_keys_table htable

/-- The layer of flags, of which there may be none. -/
theorem flagsLayer_eq
    (flags : Option Flags) :
    (flags.map Flags.layer).getD [] =
      Setting.layer (fun s => flags.bind fun fs => fs.value? s) Setting.all := by
  cases flags with
  | none => rfl
  | some fs => exact fs.layer_eq

/-- The topmost layer with a key decides what all layers together hold
there. -/
theorem lookup_combine
    {table : Layer} (htable : table.keys.Nodup) {env : Environment}
    (hflat : env.IsFlat) (henv : env.entries.keys.Nodup)
    (flags : Option Flags) (key : Text) :
    (combine table env flags).lookup key =
      ((Setting.layer (fun s => flags.bind fun fs => fs.value? s)
          Setting.all).lookup key).or
        ((env.entries.lookup key).or
          ((table.lookup key).or (defaultLayer.lookup key))) := by
  rw [combine, flagsLayer_eq, Layer.lookup_merge (Setting.nodup_keys_layer _),
    Layer.lookup_merge (Environment.nodup_keys_layer hflat),
    Layer.lookup_merge htable, Environment.lookup_layer hflat henv]
  · -- No default is a table.
    intro v w _ hw
    rw [defaultLayer_eq] at hw
    obtain ⟨s, hs⟩ := Setting.exists_of_lookup_layer hw
    cases hs
    exact Or.inr (Setting.not_isTable_default s)
  · -- Variables hold texts.
    intro v w hv _
    rw [Environment.lookup_layer hflat henv] at hv
    exact Or.inl (Environment.not_isTable_of_lookup_entries hv)
  · -- No flag gives a table.
    intro v w hv _
    obtain ⟨s, hs⟩ := Setting.exists_of_lookup_layer hv
    obtain ⟨fs, -, hvalue⟩ := Option.bind_eq_some_iff.mp hs
    exact Or.inl (Flags.not_isTable_of_value? hvalue)

end Config

/-- All that the settings of a run come from. -/
structure Inputs where
  fileSystem : FileSystem
  environment : Environment
  root : Text
  /-- The file that was asked for, or nothing. -/
  file : Text
  flags : Option Flags

namespace Inputs

/-- Load the settings. -/
def load (i : Inputs) : Except LoadError Config :=
  Config.load i.fileSystem i.environment i.root i.file i.flags

/-- The file that settings are taken from, or nothing. -/
def usedFile (i : Inputs) : Text :=
  if i.file.isEmpty then Config.findFile i.fileSystem i.root else i.file

/-- The value of a setting: that of the flag if it was given, else of the
variable, else of the key in the table of the file, else the default. -/
def value (i : Inputs) (table : Layer) (s : Setting) : Value :=
  ((i.flags.bind fun fs => fs.value? s).or
    ((i.environment.entries.lookup s.key).or (table.lookup s.key))).getD s.default

/-- The file holds a table or there is none, no variable leads into a table,
the variables give different settings, and nothing has the key that has to hold
a text without being a setting. -/
structure IsPlain (i : Inputs) (table : Layer) : Prop where
  fileLayer_eq : Config.fileLayer i.fileSystem i.usedFile = .ok table
  isFlat : i.environment.IsFlat
  nodup_environment : i.environment.entries.keys.Nodup
  notMem_table : Decode.unnamed ∉ table.keys
  notMem_environment : Decode.unnamed ∉ i.environment.entries.keys

variable {i : Inputs} {table : Layer}

/-- All layers together. -/
def combined (i : Inputs) (table : Layer) : Layer :=
  Config.combine table i.environment i.flags

theorem IsPlain.lookup_combined
    (h : i.IsPlain table) (key : Text) :
    (i.combined table).lookup key =
      ((Setting.layer (fun s => i.flags.bind fun fs => fs.value? s)
          Setting.all).lookup key).or
        ((i.environment.entries.lookup key).or
          ((table.lookup key).or (Config.defaultLayer.lookup key))) :=
  Config.lookup_combine (Config.nodup_keys_fileLayer h.fileLayer_eq) h.isFlat
    h.nodup_environment i.flags key

theorem IsPlain.raw_key
    (h : i.IsPlain table) (s : Setting) :
    Decode.raw (i.combined table) s.key = i.value table s := by
  rw [Decode.raw, h.lookup_combined, Config.defaultLayer_eq,
    Setting.lookup_layer, Setting.lookup_layer, value]
  rw [← Option.or_assoc, ← Option.or_assoc, Option.or_some, Option.getD_some,
    Option.or_assoc]

theorem IsPlain.raw_unnamed
    (h : i.IsPlain table) :
    Decode.raw (i.combined table) Decode.unnamed = .null := by
  rw [Decode.raw, h.lookup_combined, Config.defaultLayer_eq,
    Setting.lookup_layer_unnamed, Setting.lookup_layer_unnamed,
    Layer.lookup_eq_none_of_notMem h.notMem_table,
    Layer.lookup_eq_none_of_notMem h.notMem_environment]
  rfl

theorem IsPlain.load_eq
    (h : i.IsPlain table) :
    i.load =
      (Decode.config i.root i.usedFile (i.combined table)).mapError
        .undecodable := by
  have hfile : Config.fileLayer i.fileSystem
      (if i.file.isEmpty then Config.findFile i.fileSystem i.root else i.file) =
        .ok table := h.fileLayer_eq
  rw [load, Config.load]
  simp only [hfile, usedFile, combined]
  generalize Decode.config i.root _ _ = outcome
  cases outcome <;> rfl

theorem IsPlain.load_eq_ok_iff
    (h : i.IsPlain table) (c : Config) :
    i.load = .ok c ↔
      c.root = i.root ∧ c.file = i.usedFile ∧
        ∀ s : Setting, s.decode? (i.value table s) = some (c.get s) := by
  have hconfig : i.load = .ok c ↔
      Decode.config i.root i.usedFile (i.combined table) = .ok c := by
    rw [h.load_eq]
    cases Decode.config i.root i.usedFile (i.combined table) <;>
      simp [Except.mapError]
  rw [hconfig, Decode.config_eq_ok_iff h.raw_unnamed]
  simp only [h.raw_key]

/-- Nothing counts but the values of the settings, also for errors. -/
theorem IsPlain.load_congr
    (h : i.IsPlain table) {j : Inputs} {other : Layer} (hj : j.IsPlain other)
    (hroot : j.root = i.root) (hfile : j.usedFile = i.usedFile)
    (hvalue : ∀ s, j.value other s = i.value table s) :
    j.load = i.load := by
  have hraw : ∀ s : Setting, Decode.raw (j.combined other) s.key =
      Decode.raw (i.combined table) s.key := by
    intro s
    rw [hj.raw_key, h.raw_key, hvalue]
  have hunnamed : Decode.raw (j.combined other) Decode.unnamed =
      Decode.raw (i.combined table) Decode.unnamed := by
    rw [hj.raw_unnamed, h.raw_unnamed]
  rw [hj.load_eq, h.load_eq, hroot, hfile, Decode.config_congr hraw hunnamed]

/-- Loading decodes the value of each setting in the topmost layer that has
one: it succeeds exactly if each of them can be decoded, and nothing else has
an effect. -/
theorem load_resolves_each_setting
    {i : Inputs} {table : Layer} (h : i.IsPlain table) :
    (∀ c, i.load = .ok c ↔
      c.root = i.root ∧ c.file = i.usedFile ∧
        ∀ s : Setting, s.decode? (i.value table s) = some (c.get s)) ∧
    ((∃ c, i.load = .ok c) ↔
      ∀ s : Setting, (s.decode? (i.value table s)).isSome = true) ∧
    ∀ (j : Inputs) (other : Layer), j.IsPlain other → j.root = i.root →
      j.usedFile = i.usedFile → (∀ s, j.value other s = i.value table s) →
      j.load = i.load := by
  refine ⟨h.load_eq_ok_iff, ?_, ?_⟩
  · rw [← Config.exists_get_eq_iff i.root i.usedFile]
    simp only [h.load_eq_ok_iff]
  · intro j other hj hroot hfile hvalue
    exact h.load_congr hj hroot hfile hvalue

/-- A site whose file gives a list where a truth value is wanted. -/
def listedSite : FileSystem where
  entries :=
    [(["s"], .directory),
      (["s", "shrink.yaml"], .file "quiet: []\njs_dir: ~\n")]
  workingDirectory := []

/-- The settings in the file of `listedSite`. -/
def listedTable : Layer :=
  [("quiet", .list []), ("js_dir", .null)]

/-- Whether these settings were found in a file. -/
def isListed : Except LoadError Layer → Bool
  | .ok [(quiet, .list []), (jsDir, .null)] => quiet = "quiet" && jsDir = "js_dir"
  | _ => false

theorem eq_of_isListed
    {found : Except LoadError Layer} (h : isListed found = true) :
    found = .ok listedTable := by
  rw [isListed.eq_def] at h
  split at h
  · rw [Bool.and_eq_true, decide_eq_true_eq, decide_eq_true_eq] at h
    rw [h.1, h.2, listedTable]
  · cases h

-- Settings may hold numbers for which equality is not decided, so the table is
-- compared by its shape.
theorem fileLayer_listedSite :
    Config.fileLayer listedSite "/s/shrink.yaml" = .ok listedTable :=
  eq_of_isListed (by decide +kernel)

/-- A run on `listedSite` in which a flag is given and a variable is empty. -/
def emptied : Inputs where
  fileSystem := listedSite
  environment := [("PATH", "/bin"), ("SHRINK_CSS_DIR", "")]
  root := "/s"
  file := []
  flags := some { quiet := some true }

/-- The same with a variable that spells no truth value, one that gives no
setting, and a flag that gives none. -/
def burdened : Inputs where
  fileSystem := listedSite
  environment :=
    [("SHRINK_Css_Dir", ""), ("SHRINK_QUIET", "maybe"), ("SHRINK_TEMPO", "1")]
  root := "/s"
  file := []
  flags := some { quiet := some true, help := some true }

theorem isPlain_emptied :
    emptied.IsPlain listedTable where
  fileLayer_eq := fileLayer_listedSite
  isFlat := by unfold Environment.IsFlat; decide
  nodup_environment := by decide
  notMem_table := by decide
  notMem_environment := by decide

theorem isPlain_burdened :
    burdened.IsPlain listedTable where
  fileLayer_eq := fileLayer_listedSite
  isFlat := by unfold Environment.IsFlat; decide
  nodup_environment := by decide
  notMem_table := by decide
  notMem_environment := by decide

/-- Neither the list in the file nor the variable below the flag does any harm,
and the empty text and the missing value count. -/
theorem load_resolves_each_setting_emptied :
    emptied.IsPlain listedTable ∧
    emptied.load = .ok
      { root := "/s", cssDir := "", jsDir := "", engine := "regex",
        exclude := [], quiet := true, dryRun := false,
        file := "/s/shrink.yaml" } ∧
    burdened.load = emptied.load := by
  refine ⟨isPlain_emptied, ?_, ?_⟩
  · rw [(load_resolves_each_setting isPlain_emptied).1]
    refine ⟨rfl, rfl, ?_⟩
    intro s
    cases s <;> rfl
  · refine (load_resolves_each_setting isPlain_emptied).2.2 burdened listedTable
      isPlain_burdened rfl rfl ?_
    intro s
    cases s <;> rfl

end Inputs

end AssetMinifier
