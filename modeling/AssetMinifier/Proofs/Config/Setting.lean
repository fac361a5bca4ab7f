import AssetMinifier.Config.Load
import AssetMinifier.Proofs.Config.Layer

/-!
# Settings one by one

The settings that can be configured, what each of them holds, and how it is
decoded.  Decoding all settings succeeds exactly if decoding each one does.
-/

namespace AssetMinifier

/-- A setting that can be configured. -/
inductive Setting where
  | cssDir
  | jsDir
  | engine
  | exclude
  | quiet
  | dryRun
  deriving DecidableEq, Repr

namespace Setting

/-- All settings. -/
def all : List Setting :=
  [cssDir, jsDir, engine, exclude, quiet, dryRun]

/-- The key of a setting. -/
def key : Setting → Text
  | cssDir => "css_dir"
  | jsDir => "js_dir"
  | engine => "engine"
  | exclude => "exclude"
  | quiet => "quiet"
  | dryRun => "dry_run"

/-- The value of a setting that is nowhere configured. -/
def default : Setting → Value
  | cssDir => .text "css"
  | jsDir => .text "js"
  | engine => .text "regex"
  | exclude => .list []
  | quiet => .bool false
  | dryRun => .bool false

/-- What a setting holds once it is decoded. -/
def Field : Setting → Type
  | cssDir | jsDir | engine => Text
  | exclude => List Text
  | quiet | dryRun => Bool

/-- What a value is decoded to for a setting. -/
def decode? : (s : Setting) → Value → Option s.Field
  | cssDir, v | jsDir, v | engine, v => v.toText.toOption
  | exclude, v =>
    (v.items.mapM fun item => (Value.toText item).toOption).map Config.splitList
  | quiet, v | dryRun, v => v.toBool.toOption

theorem mem_all
    (s : Setting) :
    s ∈ all := by
  cases s <;> decide

theorem key_injective :
    Function.Injective key := by
  have hkeys : ∀ s ∈ all, ∀ t ∈ all, s.key = t.key → s = t := by decide
  intro s t h
  exact hkeys s (mem_all s) t (mem_all t) h

theorem key_ne_unnamed
    (s : Setting) :
    s.key ≠ Decode.unnamed := by
  cases s <;> decide

theorem not_isTable_default
    (s : Setting) :
    Layer.isTable s.default = false := by
  cases s <;> rfl

/-! ## Layers of settings -/

/-- The layer in which some settings have values. -/
def layer (value? : Setting → Option Value) (settings : List Setting) : Layer :=
  settings.filterMap fun s => (value? s).map fun v => (s.key, v)

theorem keys_layer
    (value? : Setting → Option Value) (settings : List Setting) :
    (layer value? settings).keys =
      (settings.filter fun s => (value? s).isSome).map key := by
  induction settings with
  | nil => rfl
  | cons s settings ih =>
      cases hvalue : value? s with
      | none => simpa [layer, hvalue] using ih
      | some v => simpa [layer, hvalue, Layer.keys] using ih

theorem nodup_keys_layer
    (value? : Setting → Option Value) :
    (layer value? all).keys.Nodup := by
  have hall : all.Nodup := by decide
  rw [keys_layer]
  exact (hall.filter _).map key_injective

theorem lookup_layer
    (value? : Setting → Option Value) (s : Setting) :
    (layer value? all).lookup s.key = value? s := by
  cases hvalue : value? s with
  | none =>
      apply Layer.lookup_eq_none_of_notMem
      rw [keys_layer]
      intro hmem
      obtain ⟨t, ht, hkey⟩ := List.mem_map.mp hmem
      have hsome := (List.mem_filter.mp ht).2
      rw [key_injective hkey, hvalue] at hsome
      cases hsome
  | some v =>
      apply Layer.lookup_of_mem (nodup_keys_layer value?)
      refine List.mem_filterMap.mpr ⟨s, mem_all s, ?_⟩
      rw [hvalue]
      rfl

theorem lookup_layer_unnamed
    (value? : Setting → Option Value) :
    (layer value? all).lookup Decode.unnamed = none := by
  apply Layer.lookup_eq_none_of_notMem
  rw [keys_layer]
  intro hmem
  obtain ⟨s, -, hkey⟩ := List.mem_map.mp hmem
  exact key_ne_unnamed s hkey

theorem exists_of_lookup_layer
    {value? : Setting → Option Value} {key : Text} {v : Value}
    (h : (layer value? all).lookup key = some v) :
    ∃ s, value? s = some v := by
  obtain ⟨s, -, hs⟩ := List.mem_filterMap.mp (Layer.mem_of_lookup h)
  obtain ⟨w, hw, he⟩ := Option.map_eq_some_iff.mp hs
  cases he
  exact ⟨s, hw⟩

end Setting

theorem Config.defaultLayer_eq :
    defaultLayer = Setting.layer (fun s => some s.default) Setting.all :=
  rfl

namespace Flags

/-- The value that was given for a setting. -/
def value? (fs : Flags) : Setting → Option Value
  | .cssDir => fs.cssDir.map .text
  | .jsDir => fs.jsDir.map .text
  | .engine => fs.engine.map .text
  | .exclude => fs.exclude.map fun items =>
      .list (items.map fun t => .text (Text.replace "\r\n" "\n" t))
  | .quiet => fs.quiet.map .bool
  | .dryRun => fs.dryRun.map .bool

theorem not_isTable_of_value?
    {fs : Flags} {s : Setting} {v : Value} (h : fs.value? s = some v) :
    Layer.isTable v = false := by
  cases s
  all_goals
    obtain ⟨a, -, rfl⟩ := Option.map_eq_some_iff.mp h
    rfl

theorem layer_eq
    (fs : Flags) :
    fs.layer = Setting.layer fs.value? Setting.all := by
  rw [Setting.layer, List.filterMap_eq_flatMap_toList]
  simp only [layer, List.append_assoc]
  simp only [Setting.all, List.flatMap_cons, List.flatMap_nil, List.append_nil]
  rfl

end Flags

/-! ## Decoding -/

namespace Config

/-- What a configuration holds for a setting. -/
def get (c : Config) : (s : Setting) → s.Field
  | .cssDir => c.cssDir
  | .jsDir => c.jsDir
  | .engine => c.engine
  | .exclude => c.exclude
  | .quiet => c.quiet
  | .dryRun => c.dryRun

/-- The configuration that holds something for each setting. -/
def ofFields (root file : Text) (field : (s : Setting) → s.Field) : Config where
  root := root
  cssDir := field .cssDir
  jsDir := field .jsDir
  engine := field .engine
  exclude := field .exclude
  quiet := field .quiet
  dryRun := field .dryRun
  file := file

theorem get_ofFields
    (root file : Text) (field : (s : Setting) → s.Field) (s : Setting) :
    (ofFields root file field).get s = field s := by
  cases s <;> rfl

/-- Values can be decoded one by one exactly if one configuration holds them
all. -/
theorem exists_get_eq_iff
    (root file : Text) (value : Setting → Value) :
    (∃ c : Config, c.root = root ∧ c.file = file ∧
        ∀ s : Setting, s.decode? (value s) = some (c.get s)) ↔
      ∀ s : Setting, (s.decode? (value s)).isSome = true := by
  constructor
  · rintro ⟨c, -, -, hc⟩ s
    rw [hc s]
    rfl
  · intro h
    choose field hfield using fun s : Setting =>
      Option.isSome_iff_exists.mp (h s)
    refine ⟨ofFields root file field, rfl, rfl, ?_⟩
    intro s
    rw [get_ofFields, hfield]

end Config

namespace Decode

theorem both_eq_ok_iff
    {α β γ : Type} {f : α → β → γ} {x : Outcome α} {y : Outcome β} {c : γ} :
    both f x y = .ok c ↔ ∃ a b, x = .ok a ∧ y = .ok b ∧ f a b = c := by
  cases x with
  | error d => cases y <;> simp [both]
  | ok a => cases y <;> simp [both]

theorem atKey_eq_ok_iff
    {α : Type} {key : Text} {x : Except DecodeFault α} {a : α} :
    atKey key x = .ok a ↔ x.toOption = some a := by
  cases x <;> simp [atKey, Except.toOption]

theorem elements_eq_ok_iff
    {key : Text} {i : Nat} {vs : List Value} {ts : List Text} :
    elements key i vs = .ok ts ↔
      vs.mapM (fun v => v.toText.toOption) = some ts := by
  induction vs generalizing i ts with
  | nil => simp [elements]
  | cons v vs ih =>
      simp only [elements, both_eq_ok_iff, text, atKey_eq_ok_iff, ih,
        List.mapM_cons]
      simp [Option.bind_eq_some_iff]

/-- Decoding gives the configuration that holds what each value is decoded
to. -/
theorem config_eq_ok_iff
    {root file : Text} {layer : Layer} (hunnamed : raw layer unnamed = .null)
    {c : Config} :
    config root file layer = .ok c ↔
      c.root = root ∧ c.file = file ∧
        ∀ s : Setting, s.decode? (raw layer s.key) = some (c.get s) := by
  have hnull : text unnamed (raw layer unnamed) = .ok [] := by
    rw [hunnamed]
    rfl
  rw [config, hnull]
  constructor
  · intro h
    obtain ⟨_, _, -, h₁, rfl⟩ := both_eq_ok_iff.mp h
    obtain ⟨_, _, h₂, -, rfl⟩ := both_eq_ok_iff.mp h₁
    obtain ⟨cssDir, _, hcssDir, h₃, rfl⟩ := both_eq_ok_iff.mp h₂
    obtain ⟨jsDir, _, hjsDir, h₄, rfl⟩ := both_eq_ok_iff.mp h₃
    obtain ⟨engine, _, hengine, h₅, rfl⟩ := both_eq_ok_iff.mp h₄
    obtain ⟨exclude, _, hexclude, h₆, rfl⟩ := both_eq_ok_iff.mp h₅
    obtain ⟨quiet, dryRun, hquiet, hdryRun, rfl⟩ := both_eq_ok_iff.mp h₆
    refine ⟨rfl, rfl, ?_⟩
    intro s
    cases s with
    | cssDir => exact atKey_eq_ok_iff.mp hcssDir
    | jsDir => exact atKey_eq_ok_iff.mp hjsDir
    | engine => exact atKey_eq_ok_iff.mp hengine
    | exclude =>
        exact congrArg (Option.map Config.splitList)
          (elements_eq_ok_iff.mp hexclude)
    | quiet => exact atKey_eq_ok_iff.mp hquiet
    | dryRun => exact atKey_eq_ok_iff.mp hdryRun
  · rintro ⟨rfl, rfl, h⟩
    obtain ⟨items, hitems, hsplit⟩ := Option.map_eq_some_iff.mp (h .exclude)
    have hcssDir : text "css_dir" (raw layer "css_dir") = .ok c.cssDir :=
      atKey_eq_ok_iff.mpr (h .cssDir)
    have hjsDir : text "js_dir" (raw layer "js_dir") = .ok c.jsDir :=
      atKey_eq_ok_iff.mpr (h .jsDir)
    have hengine : text "engine" (raw layer "engine") = .ok c.engine :=
      atKey_eq_ok_iff.mpr (h .engine)
    have hexclude : texts "exclude" (raw layer "exclude") = .ok items :=
      elements_eq_ok_iff.mpr hitems
    have hquiet : bool "quiet" (raw layer "quiet") = .ok c.quiet :=
      atKey_eq_ok_iff.mpr (h .quiet)
    have hdryRun : bool "dry_run" (raw layer "dry_run") = .ok c.dryRun :=
      atKey_eq_ok_iff.mpr (h .dryRun)
    rw [hcssDir, hjsDir, hengine, hexclude, hquiet, hdryRun]
    have hc : { c with exclude := Config.splitList items } = c := by
      rw [hsplit]
      rfl
    exact congrArg Except.ok hc

/-- Only the values of settings are decoded. -/
theorem config_congr
    {layer other : Layer}
    (h : ∀ s : Setting, raw layer s.key = raw other s.key)
    (hunnamed : raw layer unnamed = raw other unnamed) (root file : Text) :
    config root file layer = config root file other := by
  have hcssDir : raw layer "css_dir" = raw other "css_dir" := h .cssDir
  have hjsDir : raw layer "js_dir" = raw other "js_dir" := h .jsDir
  have hengine : raw layer "engine" = raw other "engine" := h .engine
  have hexclude : raw layer "exclude" = raw other "exclude" := h .exclude
  have hquiet : raw layer "quiet" = raw other "quiet" := h .quiet
  have hdryRun : raw layer "dry_run" = raw other "dry_run" := h .dryRun
  rw [config, config, hunnamed, hcssDir, hjsDir, hengine, hexclude, hquiet,
    hdryRun]

end Decode

end AssetMinifier
