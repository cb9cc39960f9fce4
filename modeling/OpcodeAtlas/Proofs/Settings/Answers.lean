import OpcodeAtlas.Command.Run
import OpcodeAtlas.Proofs.Settings.Layering
import OpcodeAtlas.Proofs.Value.KeyOrder

/-!
# When settings are given or refused

Loading settings answers with the settings, with a refusal of the file, or with issues of values
(`Settings.Answers`). Everything else that ends it is no answer, and a command that asks for
settings does not report it.

What has to hold for an answer is found stage by stage, since a stage only runs if those in front of
it have a result. A settings file has to be sound (`SettingsFile.Sound`): its path can be used, its
bytes are a text, no scalar in it is without a value, unknown names in it are texts, and its
directory of pages can be shown and is in no unknown home. Then no unknown home may be in the
directory of pages that counts (`Settings.Sound`). There is an answer just then
(`Settings.answers_iff_sound`), as far as the stack of a machine holds what is read.
-/

set_option autoImplicit false

namespace OpcodeAtlas

/-! ## Answers -/

namespace Settings

/-- Some work on settings ends with a result, with a refusal of the file, or with issues. -/
inductive Answers {α : Type} : Except SettingsError α → Prop where
  | result (a : α) : Answers (.ok a)
  | refusal (f : Failure) : Answers (.error (.failure f))
  | issues (found : List Issue) : Answers (.error (.issues found))

/-- An error is an answer or none, whatever the result would have been. -/
theorem answers_error_iff {α β : Type} {e : SettingsError} :
    Answers (.error e : Except SettingsError α) ↔ Answers (.error e : Except SettingsError β) := by
  constructor
  · rintro (_ | f | found)
    · exact .refusal f
    · exact .issues found
  · rintro (_ | f | found)
    · exact .refusal f
    · exact .issues found

/-- Two stages, one behind the other. -/
theorem answers_bind_iff {α β : Type} {r : Except SettingsError α}
    {next : α → Except SettingsError β} :
    Answers (r.bind next) ↔ Answers r ∧ ∀ a, r = .ok a → Answers (next a) := by
  cases r with
  | ok a => exact ⟨fun h => ⟨.result a, fun _ ha => Except.ok.inj ha ▸ h⟩, fun h => h.2 a rfl⟩
  | error e => exact ⟨fun h => ⟨answers_error_iff.1 h, nofun⟩, fun h => answers_error_iff.1 h.1⟩

theorem answers_map_iff {α β : Type} {r : Except SettingsError α} {f : α → β} :
    Answers (r.map f) ↔ Answers r := by
  have hmap : r.map f = r.bind fun a => .ok (f a) := by cases r <;> rfl
  rw [hmap, answers_bind_iff]
  exact ⟨And.left, fun h => ⟨h, fun a _ => .result (f a)⟩⟩

end Settings

/-! ## The settings file -/

namespace SettingsFile

open Settings (Answers answers_bind_iff answers_error_iff answers_map_iff checkNames_eq_ok
  refuseUnknown_ne_ok)

/-- The keys of a file that name no setting. -/
def unknownKeys (es : Entries) : List Value := (es.map (·.1)).filter (!isName ·)

/-- A settings file is sound: whatever is wrong with it is reason to refuse it. -/
structure Sound (h : Host) (path : Path) : Prop where
  usable : path.check = .ok ()
  text : ∀ bytes, h.readBytes path = .ok bytes → ∃ chars, Text.Utf8.decode bytes = .ok chars
  scalars : path.lowerExtension = ".yaml" ∨ path.lowerExtension = ".yml" →
    ∀ text, h.readText path = .ok text → ∀ f, Yaml.read text ≠ .error (.scalar f)
  names : ∀ es, entries h path = .ok es → ∀ key ∈ unknownKeys es, key.IsText
  directory : ∀ es, entries h path = .ok es → unknownKeys es = [] →
    ∀ v, es.get? "docs_dir" = some v → v ≠ .null →
      v.isShowable = true ∧ ∃ p, h.expandHome (Path.ofString v.shown) = .ok p

section
variable {h : Host} {path : Path}

/-- The text of a file: what cannot be opened is refused, unlike what is no path and no text. -/
theorem answers_readText_iff :
    Answers (readText h path) ↔ path.check = .ok () ∧
      ∀ bytes, h.readBytes path = .ok bytes → ∃ chars, Text.Utf8.decode bytes = .ok chars := by
  rw [readText, Host.readText]
  cases path.check with
  | error f => exact iff_of_false nofun nofun
  | ok _ =>
      cases h.readBytes path with
      | error e => exact iff_of_true (.refusal _) ⟨rfl, nofun⟩
      | ok bytes =>
          dsimp only
          cases hdecode : Text.Utf8.decode bytes with
          | ok chars =>
              refine iff_of_true (.result _) ⟨rfl, fun bytes' hbytes => ⟨chars, ?_⟩⟩
              cases hbytes
              exact hdecode
          | error m =>
              refine iff_of_false nofun fun ⟨_, htext⟩ => ?_
              obtain ⟨chars, hchars⟩ := htext bytes rfl
              rw [hdecode] at hchars
              cases hchars

theorem readText_eq_ok_iff {text : List Char} :
    readText h path = .ok text ↔ path.check = .ok () ∧ h.readText path = .ok text := by
  rw [readText]
  cases path.check with
  | error f => exact iff_of_false nofun nofun
  | ok _ =>
      rw [and_iff_right rfl]
      cases h.readText path with
      | ok read => simp
      | error e => cases e <;> exact iff_of_false nofun nofun

/-- Of the formats, YAML alone has scalars that end the reading. -/
theorem answers_readAs_iff {extension : String} {text : List Char} :
    Answers (readAs path extension text) ↔
      (extension = ".yaml" ∨ extension = ".yml" → ∀ f, Yaml.read text ≠ .error (.scalar f)) := by
  rw [readAs]
  split
  next htoml =>
    subst htoml
    refine iff_of_true ?_ fun hyaml => absurd hyaml (by decide)
    rw [readToml]
    cases Toml.read? text with
    | some v => exact .result v
    | none => exact .refusal _
  · split
    next hyaml =>
      rw [readYaml]
      cases Yaml.read text with
      | ok v => exact iff_of_true (.result v) fun _ _ => nofun
      | error e =>
          cases e with
          | malformed => exact iff_of_true (.refusal _) fun _ _ => nofun
          | scalar f => exact iff_of_false nofun fun hall => hall hyaml f rfl
    next hyaml => exact iff_of_true (.refusal _) fun h => absurd h hyaml

theorem answers_entriesOf (v : Value) : Answers (entriesOf path v) := by
  unfold entriesOf
  split
  · exact .result _
  · split
    · exact .result _
    · exact .refusal _

/-- The entries of a file, stage by stage. -/
theorem entries_eq_bind : entries h path = (readText h path).bind fun text =>
    (readAs path path.lowerExtension text).bind (entriesOf path) := by
  rw [entries]
  cases readText h path with
  | error e => rfl
  | ok text =>
      dsimp only [Except.bind]
      cases readAs path path.lowerExtension text with
      | error e => rfl
      | ok v => rfl

theorem answers_entries_iff :
    Answers (entries h path) ↔ (path.check = .ok () ∧
        ∀ bytes, h.readBytes path = .ok bytes → ∃ chars, Text.Utf8.decode bytes = .ok chars) ∧
      ∀ text, readText h path = .ok text →
        path.lowerExtension = ".yaml" ∨ path.lowerExtension = ".yml" →
          ∀ f, Yaml.read text ≠ .error (.scalar f) := by
  rw [entries_eq_bind, answers_bind_iff, answers_readText_iff]
  refine and_congr_right fun _ => forall₂_congr fun text _ => ?_
  rw [answers_bind_iff, answers_readAs_iff]
  exact and_iff_left fun v _ => answers_entriesOf v

/-! ## Names -/

theorem answers_keyTexts_iff {place : Nat} {keys : List Value} :
    Answers (keyTexts place keys) ↔ ∀ key ∈ keys, key.IsText := by
  induction keys generalizing place with
  | nil => exact iff_of_true (.result []) nofun
  | cons key keys ih =>
      rw [List.forall_mem_cons]
      cases key with
      | text s =>
          rw [keyTexts, answers_map_iff, ih]
          exact (and_iff_right ⟨s, rfl⟩).symm
      | _ => exact iff_of_false nofun fun ⟨⟨_, htext⟩, _⟩ => nomatch htext

/-- Unknown names are listed in the refusal, which takes texts. -/
theorem answers_refuseUnknown_iff {unknown : List Value} :
    Answers (refuseUnknown path unknown) ↔ ∀ key ∈ unknown, key.IsText := by
  rw [refuseUnknown]
  cases hsort : Value.sortKeys unknown with
  | error u =>
      -- Names that cannot be sorted are not all texts.
      refine iff_of_false nofun fun htexts => ?_
      obtain ⟨sorted, hsorted⟩ := Value.exists_sortKeys htexts
      rw [hsort] at hsorted
      cases hsorted
  | ok sorted =>
      -- The refusal lists them in order.
      have hmem : (∀ key ∈ unknown, key.IsText) ↔ ∀ key ∈ sorted, key.IsText := by
        simp only [(Value.perm_sortKeys hsort).mem_iff]
      have hanswers : Answers (keyTexts 0 sorted) ↔ ∀ key ∈ sorted, key.IsText :=
        answers_keyTexts_iff
      rw [hmem, ← hanswers]
      dsimp only
      cases keyTexts 0 sorted with
      | ok texts => exact iff_of_true (.refusal _) (.result texts)
      | error e => exact answers_error_iff

theorem answers_checkNames_iff {es : Entries} :
    Answers (checkNames path es) ↔ ∀ key ∈ unknownKeys es, key.IsText := by
  rw [checkNames, unknownKeys]
  split
  next hnone => exact iff_of_true (.result es) (hnone ▸ nofun)
  next hsome => exact answers_refuseUnknown_iff

/-- Entries are admitted just if all their keys are names. -/
theorem checkNames_eq_ok_iff {es admitted : Entries} :
    checkNames path es = .ok admitted ↔ admitted = es ∧ unknownKeys es = [] := by
  constructor
  · intro hnames
    refine ⟨checkNames_eq_ok hnames, ?_⟩
    unfold checkNames at hnames
    split at hnames
    next hnone => exact hnone
    · exact absurd hnames (refuseUnknown_ne_ok _ _)
  · rintro ⟨rfl, hnone⟩
    rw [unknownKeys] at hnone
    rw [checkNames, hnone]

/-! ## The directory of pages -/

theorem answers_anchorValue_iff {v : Value} :
    Answers (anchorValue h path v) ↔
      v.isShowable = true ∧ ∃ p, h.expandHome (Path.ofString v.shown) = .ok p := by
  rw [anchorValue]
  cases v.isShowable with
  | false => exact iff_of_false nofun nofun
  | true =>
      rw [if_neg (by decide)]
      dsimp only
      cases h.expandHome (Path.ofString v.shown) with
      | error f => exact iff_of_false nofun nofun
      | ok p => exact iff_of_true (.result _) ⟨rfl, p, rfl⟩

theorem answers_anchor_iff {es : Entries} :
    Answers (anchor h path es) ↔ ∀ v, es.get? "docs_dir" = some v → v ≠ .null →
      v.isShowable = true ∧ ∃ p, h.expandHome (Path.ofString v.shown) = .ok p := by
  rw [anchor]
  split
  next hnone =>
    refine iff_of_true (.result es) fun v hv => ?_
    cases hnone.symm.trans hv
  next hnull =>
    refine iff_of_true (.result es) fun v hv hne => ?_
    cases hnull.symm.trans hv
    exact absurd rfl hne
  next v hne hsome =>
    rw [answers_map_iff, answers_anchorValue_iff]
    constructor
    · intro hv w hw _
      cases hsome.symm.trans hw
      exact hv
    · intro hall
      exact hall v hsome fun hnull => hne hnull

/-! ## The file as a whole -/

theorem load_eq_bind : load h path =
    (entries h path).bind fun es => (checkNames path es).bind (anchor h path) := by
  rw [load]
  cases entries h path with
  | error e => rfl
  | ok es =>
      dsimp only [Except.bind]
      cases checkNames path es with
      | error e => rfl
      | ok es => rfl

/-- **A settings file is loaded or refused just if it is sound.** -/
theorem answers_load_iff : Answers (load h path) ↔ Sound h path := by
  -- The conditions of the stages, each under the outcome of those in front of it.
  rw [load_eq_bind, answers_bind_iff, answers_entries_iff]
  simp only [answers_bind_iff, answers_checkNames_iff, checkNames_eq_ok_iff, answers_anchor_iff,
    readText_eq_ok_iff]
  constructor
  · rintro ⟨⟨⟨husable, htext⟩, hscalars⟩, hentries⟩
    refine ⟨husable, htext, fun hyaml text ht => hscalars text ⟨husable, ht⟩ hyaml, ?_, ?_⟩
    · exact fun es hes => (hentries es hes).1
    · exact fun es hes hnone => (hentries es hes).2 es ⟨rfl, hnone⟩
  · intro hsound
    refine ⟨⟨⟨hsound.usable, hsound.text⟩, fun text ht hyaml => ?_⟩, fun es hes => ⟨?_, ?_⟩⟩
    · exact hsound.scalars hyaml text ht.2
    · exact hsound.names es hes
    · rintro admitted ⟨rfl, hnone⟩
      exact hsound.directory admitted hes hnone

end

end SettingsFile

/-! ## The settings -/

namespace Settings

/-- The layers that count for settings, if the file can be loaded. -/
inductive LayersOf (h : Host) (overrides : List (String × Value)) :
    Option Path → SettingsLayers → Prop where
  | none : LayersOf h overrides none ⟨overrides, h.environment, []⟩
  | file {path : Path} {es : Entries} (hload : SettingsFile.load h path = .ok es) :
      LayersOf h overrides (some path) ⟨overrides, h.environment, es⟩

/-- A value is the text of a path. -/
inductive IsPathText (s : String) : Value → Prop where
  | text : IsPathText s (.text s)
  | path : IsPathText s (.path s)

/-- What settings are loaded from is sound: the file is, and the directory of pages that counts is
in no unknown home. -/
structure Sound (h : Host) (file : Option Path) (overrides : List (String × Value)) : Prop where
  settingsFile : ∀ path, file = some path → SettingsFile.Sound h path
  home : ∀ layers, LayersOf h overrides file layers → ∀ v s, layers.raw? "docs_dir" = some v →
    IsPathText s v → h.expandHome (Path.ofString s) ≠ .error .unknownHome

section
variable {h : Host} {file : Option Path} {overrides : List (String × Value)}
  {layers : SettingsLayers}

theorem answers_absolute_iff {p : Path} :
    Answers (absolute h p) ↔ h.expandHome p ≠ .error .unknownHome := by
  rw [absolute]
  cases h.expandHome p with
  | error f =>
      cases f with
      | unknownHome =>
          apply iff_of_false
          · intro hanswers
            cases hanswers
          · exact fun hhome => hhome rfl
      | nullCharacter =>
          apply iff_of_true (.result _)
          intro hhome
          cases hhome
  | ok expanded =>
      apply iff_of_true
      · dsimp only
        split
        · exact .result _
        · exact .result _
      · intro hhome
        cases hhome

theorem answers_directory_iff {v : Value} :
    Answers (directory h v) ↔
      ∀ s, IsPathText s v → h.expandHome (Path.ofString s) ≠ .error .unknownHome := by
  cases v with
  | text s =>
      rw [directory, answers_absolute_iff]
      refine ⟨fun hs t ht => ?_, fun hall => hall s .text⟩
      cases ht
      exact hs
  | path s =>
      rw [directory, answers_absolute_iff]
      refine ⟨fun hs t ht => ?_, fun hall => hall s .path⟩
      cases ht
      exact hs
  | _ =>
      apply iff_of_true (.result _)
      intro s hs
      cases hs

/-- Values that do not fit are issues; of the settings, only the directory of pages can be worse. -/
theorem answers_ofLayers_iff :
    Answers (ofLayers h layers) ↔ ∀ v s, layers.raw? "docs_dir" = some v → IsPathText s v →
      h.expandHome (Path.ofString s) ≠ .error .unknownHome := by
  have hstages : ofLayers h layers =
      (directory h ((layers.raw? "docs_dir").getD defaultDirectory)).bind fun docsDirectory =>
        (ofDirectory layers docsDirectory).mapError .issues := by
    rw [ofLayers]
    cases directory h ((layers.raw? "docs_dir").getD defaultDirectory) with
    | error e => rfl
    | ok docsDirectory =>
        dsimp only [Except.bind]
        cases ofDirectory layers docsDirectory with
        | ok s => rfl
        | error found => rfl
  have hissues (docsDirectory : Checked Path) :
      Answers ((ofDirectory layers docsDirectory).mapError .issues) := by
    cases ofDirectory layers docsDirectory with
    | ok s => exact .result s
    | error found => exact .issues found
  rw [hstages, answers_bind_iff, and_iff_left fun docsDirectory _ => hissues docsDirectory,
    answers_directory_iff]
  cases layers.raw? "docs_dir" with
  | some v => exact ⟨fun hv w s hw => Option.some.inj hw ▸ hv s, fun hall s => hall v s rfl⟩
  | none =>
      apply iff_of_true
      · -- The default is in no home directory at all.
        intro s hs hhome
        cases hs
        cases hhome
      · intro v s hv
        cases hv

/-- **Settings are given or refused just if what they are loaded from is sound.** -/
theorem answers_load_iff : Answers (load h file overrides) ↔ Sound h file overrides := by
  cases file with
  | none =>
      rw [load, answers_ofLayers_iff]
      constructor
      · intro hall
        refine ⟨fun path hpath => ?_, fun layers hlayers => ?_⟩
        · cases hpath
        · cases hlayers
          exact hall
      · exact fun hsound => hsound.home _ .none
  | some path =>
      have hstages : load h (some path) overrides = (SettingsFile.load h path).bind fun es =>
          ofLayers h ⟨overrides, h.environment, es⟩ := by
        rw [load]
        cases SettingsFile.load h path with
        | error e => rfl
        | ok es => rfl
      rw [hstages, answers_bind_iff, SettingsFile.answers_load_iff]
      simp only [answers_ofLayers_iff]
      constructor
      · rintro ⟨hfile, hhome⟩
        refine ⟨fun path' hpath => Option.some.inj hpath ▸ hfile, fun layers hlayers => ?_⟩
        cases hlayers with
        | file hload => exact hhome _ hload
      · intro hsound
        exact ⟨hsound.settingsFile path rfl, fun es hload => hsound.home _ (.file hload)⟩

end

end Settings

/-! ## Commands -/

namespace Command

open Settings (Answers)

/-- A command that needs settings goes on with them, or reports the refusal or the issues. -/
inductive Handles (h : Host) (options : SharedOptions) (next : Settings → Transcript) :
    Transcript → Prop where
  | goesOn {s : Settings} (hload : Settings.load h options.config options.overrides = .ok s) :
      Handles h options next { next s with channel := ⟨some s.logLevel, some s.logFormat⟩ }
  | refusal {f : Failure}
      (hload : Settings.load h options.config options.overrides = .error (.failure f)) :
      Handles h options next (Transcript.failing f)
  | issues {found : List Issue}
      (hload : Settings.load h options.config options.overrides = .error (.issues found)) :
      Handles h options next (invalidSettings found)

theorem Handles.answers {h : Host} {options : SharedOptions} {next : Settings → Transcript}
    {t : Transcript} (hhandles : Handles h options next t) :
    Answers (Settings.load h options.config options.overrides) := by
  cases hhandles with
  | goesOn hload => exact hload ▸ .result _
  | refusal hload => exact hload ▸ .refusal _
  | issues hload => exact hload ▸ .issues _

theorem handles_withSettings_iff {h : Host} {options : SharedOptions}
    {next : Settings → Transcript} :
    Handles h options next (withSettings h options next) ↔
      Answers (Settings.load h options.config options.overrides) := by
  constructor
  · exact Handles.answers
  · intro hanswers
    rw [withSettings]
    cases hload : Settings.load h options.config options.overrides with
    | ok s => exact .goesOn hload
    | error e =>
        rw [hload] at hanswers
        cases hanswers with
        | refusal f => exact .refusal hload
        | issues found => exact .issues hload

end Command

/-! ## What is reported -/

/-- A host with a settings file in which a scalar that is marked as a switch is none. -/
def unansweredHost : Host where
  directory := ["home"]
  tree := { files :=
    [(["home", "c.yaml"], .bytes (Text.Utf8.encodeString "workers: !!bool maybe\n"))] }

end OpcodeAtlas
