import Mathlib.Data.List.Nodup
import OpcodeAtlas.Proofs.Schema.Parts
import OpcodeAtlas.Settings.Basic

/-!
# Which layer gives a setting

A setting is given by hand, by a variable of the surroundings, by the settings file or by default,
and the first of these layers that gives it counts (`Settings.Gives`). The layers differ in what
counts as giving: null by hand gives nothing, but a variable gives even the empty text and a file
gives even null, and a relative directory of pages is seen from the directory of the file
(`Settings.Anchored`).

The settings are the checked values that are so given, and there are settings just when all seven
values pass. What stands in a layer behind the one that counts has no part in them
(`Settings.load_layers`).
-/

set_option autoImplicit false

namespace OpcodeAtlas.Settings

/-! ## Layers -/

/-- A setting is given by hand; null gives nothing. -/
def ByHand (overrides : List (String × Value)) (name : String) (v : Value) : Prop :=
  overrides.lookup name = some v ∧ v ≠ .null

/-- A setting is given by a variable, whatever the letter case of its name. -/
def ByVariable (h : Host) (name : String) (v : Value) : Prop :=
  ∃ key s, (key, s) ∈ h.environment ∧
    Text.LetterCase.lowerString key = "gcodedocs_" ++ name ∧ v = .text s

/-- What the value `w` of a setting in a file gives: itself, unless it is a relative directory of
pages, which is moved below the directory of the file. -/
inductive Anchored (h : Host) (path : Path) (name : String) (w : Value) : Value → Prop
  | other (hname : name ≠ "docs_dir") : Anchored h path name w w
  | null (hw : w = .null) : Anchored h path name w w
  | absolute {p : Path} (hhome : h.expandHome (Path.ofString w.shown) = .ok p)
      (habs : p.isAbsolute = true) : Anchored h path name w w
  | relative {p : Path} (hname : name = "docs_dir") (hw : w ≠ .null)
      (hhome : h.expandHome (Path.ofString w.shown) = .ok p) (habs : p.isAbsolute = false) :
      Anchored h path name w (.path (path.parent.join (Path.ofString w.shown)).text)

/-- A setting is given by the file: the key is there, even if it stands for null. -/
def ByFile (h : Host) (file : Option Path) (name : String) (v : Value) : Prop :=
  ∃ path es w, file = some path ∧ SettingsFile.entries h path = .ok es ∧
    es.get? name = some w ∧ Anchored h path name w v

/-- The defaults. -/
def defaults : List (String × Value) :=
  [("docs_dir", .path "docs/gcode"), ("docs_extension", .text ".md"),
    ("duplicate_policy", .text "first_wins"), ("workers", .int 1), ("log_level", .text "INFO"),
    ("log_format", .text "console"), ("preview_limit", .null)]

/-- The value that a setting is given by the first layer that gives one. -/
inductive Gives (h : Host) (file : Option Path) (overrides : List (String × Value))
    (name : String) : Value → Prop
  | byHand {v : Value} (hv : ByHand overrides name v) : Gives h file overrides name v
  | byVariable {v : Value} (hhand : ∀ w, ¬ByHand overrides name w) (hv : ByVariable h name v) :
      Gives h file overrides name v
  | byFile {v : Value} (hhand : ∀ w, ¬ByHand overrides name w)
      (hvariable : ∀ w, ¬ByVariable h name w) (hv : ByFile h file name v) :
      Gives h file overrides name v
  | byDefault {v : Value} (hhand : ∀ w, ¬ByHand overrides name w)
      (hvariable : ∀ w, ¬ByVariable h name w) (hfile : ∀ w, ¬ByFile h file name w)
      (hv : defaults.lookup name = some v) : Gives h file overrides name v

/-- The file can be loaded, and no two variables have one name, letter case aside. -/
structure Readable (h : Host) (file : Option Path) : Prop where
  loads : ∀ path, file = some path → ∃ es, SettingsFile.load h path = .ok es
  once : (h.environment.map fun v => Text.LetterCase.lowerString v.1).Nodup

/-- Settings say what the values that they are given say, each checked in its own way. -/
structure Validates (h : Host) (raw : String → Value) (s : Settings) : Prop where
  docsDirectory : directory h (raw "docs_dir") = .ok (.ok s.docsDirectory)
  docsExtension : extension (raw "docs_extension") = .ok s.docsExtension
  duplicatePolicy :
    Schema.choice DuplicatePolicy.byName (raw "duplicate_policy") = .ok s.duplicatePolicy
  workers : Schema.positive (raw "workers") = .ok s.workers
  logLevel : level (raw "log_level") = .ok s.logLevel
  logFormat : Schema.choice formats (raw "log_format") = .ok s.logFormat
  previewLimit : Schema.optional Schema.positive (raw "preview_limit") = .ok s.previewLimit

/-- All seven values pass their checks. -/
structure Acceptable (h : Host) (raw : String → Value) : Prop where
  docsDirectory : ∃ p, directory h (raw "docs_dir") = .ok (.ok p)
  docsExtension : ∃ e, extension (raw "docs_extension") = .ok e
  duplicatePolicy : ∃ p, Schema.choice DuplicatePolicy.byName (raw "duplicate_policy") = .ok p
  workers : ∃ n, Schema.positive (raw "workers") = .ok n
  logLevel : ∃ l, level (raw "log_level") = .ok l
  logFormat : ∃ f, Schema.choice formats (raw "log_format") = .ok f
  previewLimit : ∃ n, Schema.optional Schema.positive (raw "preview_limit") = .ok n

/-- Two hosts and files differ at most in what a layer in front masks: in the variables of settings
that are given by hand, and in what the file says of settings that are given in front of it. -/
structure AgreeUnmasked (overrides : List (String × Value)) (h : Host) (file : Option Path)
    (h' : Host) (file' : Option Path) : Prop where
  directory : h'.directory = h.directory
  home : h'.home = h.home
  homes : h'.homes = h.homes
  ofVariable : ∀ name ∈ SettingsFile.names, (∀ w, ¬ByHand overrides name w) →
    ∀ v, ByVariable h' name v ↔ ByVariable h name v
  ofFile : ∀ name ∈ SettingsFile.names, (∀ w, ¬ByHand overrides name w) →
    (∀ w, ¬ByVariable h name w) → ∀ v, ByFile h' file' name v ↔ ByFile h file name v

/-! ## What each layer gives -/

section
variable {h : Host} {file : Option Path} {path : Path} {layers : SettingsLayers} {name : String}
  {v w : Value}

theorem override?_eq_some_iff :
    layers.override? name = some v ↔ ByHand layers.overrides name v := by
  rw [SettingsLayers.override?, ByHand]
  split
  · next hnull =>
    rw [hnull]
    constructor
    · exact nofun
    · rintro ⟨hv, hne⟩
      exact absurd (Option.some.inj hv).symm hne
  · next found hfound =>
    refine ⟨fun hv => ⟨hv, ?_⟩, And.left⟩
    rintro rfl
    exact hfound hv

/-- Where no two variables have one name, the last of them is the only one. -/
theorem ofVariable?_eq_some_iff
    (hone : (layers.environment.map fun v => Text.LetterCase.lowerString v.1).Nodup)
    (henv : layers.environment = h.environment) :
    layers.ofVariable? name = some v ↔ ByVariable h name v := by
  rw [SettingsLayers.ofVariable?, Option.map_eq_some_iff, ByVariable, ← henv]
  constructor
  · rintro ⟨⟨key, s⟩, hfind, rfl⟩
    have hmem := List.mem_reverse.1 (List.mem_of_find?_eq_some hfind)
    have hkey := List.find?_some hfind
    exact ⟨key, s, hmem, eq_of_beq hkey, rfl⟩
  · -- Some variable of that name is found, and there is no other.
    rintro ⟨key, s, hmem, hkey, rfl⟩
    have hsome : (layers.environment.reverse.find? fun v =>
        Text.LetterCase.lowerString v.1 == SettingsLayers.variableStart ++ name).isSome := by
      rw [List.find?_isSome]
      exact ⟨(key, s), List.mem_reverse.2 hmem, beq_iff_eq.2 hkey⟩
    obtain ⟨found, hfind⟩ := Option.isSome_iff_exists.1 hsome
    have hfound := List.mem_reverse.1 (List.mem_of_find?_eq_some hfind)
    have hsame := List.find?_some hfind
    have hunique : found = (key, s) :=
      List.inj_on_of_nodup_map hone hfound hmem ((eq_of_beq hsame).trans hkey.symm)
    exact ⟨found, hfind, by rw [hunique]⟩

/-! ## The file -/

theorem refuseUnknown_ne_ok (unknown : List Value) (es : Entries) :
    SettingsFile.refuseUnknown path unknown ≠ .ok es := by
  unfold SettingsFile.refuseUnknown
  split
  · exact nofun
  · split
    · exact nofun
    · exact nofun

theorem checkNames_eq_ok {es admitted : Entries}
    (hnames : SettingsFile.checkNames path es = .ok admitted) : admitted = es := by
  unfold SettingsFile.checkNames at hnames
  split at hnames
  · cases hnames
    rfl
  · exact absurd hnames (refuseUnknown_ne_ok _ _)

theorem anchored_other_iff (hname : name ≠ "docs_dir") :
    Anchored h path name w v ↔ v = w := by
  constructor
  · rintro (_ | _ | _ | ⟨rfl, _⟩)
    · rfl
    · rfl
    · rfl
    · exact absurd rfl hname
  · rintro rfl
    exact .other hname

theorem anchored_null_iff : Anchored h path name .null v ↔ v = .null := by
  constructor
  · rintro (_ | _ | _ | ⟨_, hw⟩)
    · rfl
    · rfl
    · rfl
    · exact absurd rfl hw
  · rintro rfl
    exact .null rfl

theorem anchored_iff {anchored : Value} (hw : w ≠ .null)
    (hanchor : SettingsFile.anchorValue h path w = .ok anchored) :
    Anchored h path "docs_dir" w v ↔ v = anchored := by
  unfold SettingsFile.anchorValue at hanchor
  split at hanchor
  · cases hanchor
  · dsimp only at hanchor
    split at hanchor
    · cases hanchor
    · next p hhome =>
      cases hanchor
      constructor
      · rintro (hname | hnull | ⟨hhome', habs⟩ | ⟨_, _, hhome', habs⟩)
        · exact absurd rfl hname
        · exact absurd hnull hw
        · cases hhome.symm.trans hhome'
          rw [if_pos habs]
        · cases hhome.symm.trans hhome'
          rw [if_neg (Bool.eq_false_iff.1 habs)]
      · rintro rfl
        split
        · next habs => exact .absolute hhome habs
        · next habs => exact .relative rfl hw hhome (Bool.eq_false_iff.2 habs)

/-- Anchoring leaves every entry as it is but a relative directory of pages. -/
theorem get?_anchor {es anchored : Entries}
    (hanchor : SettingsFile.anchor h path es = .ok anchored) :
    anchored.get? name = some v ↔ ∃ w, es.get? name = some w ∧ Anchored h path name w v := by
  -- The directory of pages is the only entry that is ever put anew.
  by_cases hname : name = "docs_dir"
  · subst hname
    unfold SettingsFile.anchor at hanchor
    split at hanchor
    · next hget =>
      cases hanchor
      simp [hget]
    · next hget =>
      cases hanchor
      simp [hget, anchored_null_iff, eq_comm]
    · next w hw hget =>
      cases hvalue : SettingsFile.anchorValue h path w with
      | error e =>
          rw [hvalue] at hanchor
          cases hanchor
      | ok moved =>
          rw [hvalue] at hanchor
          cases hanchor
          simp [hget, Entries.get?_putText, anchored_iff hw hvalue, eq_comm]
  · have hsame : anchored.get? name = es.get? name := by
      unfold SettingsFile.anchor at hanchor
      split at hanchor
      · cases hanchor
        rfl
      · cases hanchor
        rfl
      · next w _ _ =>
        cases hvalue : SettingsFile.anchorValue h path w with
        | error e =>
            rw [hvalue] at hanchor
            cases hanchor
        | ok moved =>
            rw [hvalue] at hanchor
            cases hanchor
            rw [Entries.get?_putText, if_neg (Ne.symm hname)]
    simp [hsame, anchored_other_iff hname]

/-- **A loaded file holds what it gives.** -/
theorem byFile_iff {es : Entries} (hload : SettingsFile.load h path = .ok es) :
    ByFile h (some path) name v ↔ es.get? name = some v := by
  unfold SettingsFile.load at hload
  split at hload
  · cases hload
  · next written hentries =>
    split at hload
    · cases hload
    · next admitted hnames =>
      cases checkNames_eq_ok hnames
      rw [get?_anchor hload, ByFile]
      constructor
      · rintro ⟨p, es', w, hp, hes, hget, hanchored⟩
        cases hp
        cases hentries.symm.trans hes
        exact ⟨w, hget, hanchored⟩
      · rintro ⟨w, hget, hanchored⟩
        exact ⟨path, written, w, rfl, hentries, hget, hanchored⟩

end

/-! ## The value that counts -/

/-- Layers hold what is given. -/
structure Holds (layers : SettingsLayers) (h : Host) (file : Option Path)
    (overrides : List (String × Value)) : Prop where
  byHand : ∀ name v, layers.override? name = some v ↔ ByHand overrides name v
  byVariable : ∀ name v, layers.ofVariable? name = some v ↔ ByVariable h name v
  byFile : ∀ name v, layers.file.get? name = some v ↔ ByFile h file name v

/-- The value of a setting with the default for it. -/
def rawValue (layers : SettingsLayers) (name : String) : Value :=
  (layers.raw? name).getD ((defaults.lookup name).getD .null)

section
variable {h : Host} {file : Option Path} {overrides : List (String × Value)}
  {layers : SettingsLayers} {name : String} {v : Value}

/-- Settings are those of layers that hold what is given. -/
theorem exists_holds (hread : Readable h file) (overrides : List (String × Value)) :
    ∃ layers, Holds layers h file overrides ∧ load h file overrides = ofLayers h layers := by
  cases file with
  | none =>
      refine ⟨⟨overrides, h.environment, []⟩, ⟨fun _ _ => override?_eq_some_iff,
        fun _ _ => ofVariable?_eq_some_iff hread.once rfl, fun name v => ?_⟩, rfl⟩
      constructor
      · exact nofun
      · rintro ⟨path, -, -, hpath, -⟩
        cases hpath
  | some path =>
      obtain ⟨es, hload⟩ := hread.loads path rfl
      refine ⟨⟨overrides, h.environment, es⟩, ⟨fun _ _ => override?_eq_some_iff,
        fun _ _ => ofVariable?_eq_some_iff hread.once rfl, fun _ _ => (byFile_iff hload).symm⟩, ?_⟩
      rw [load]
      simp only [hload]

theorem exists_default (hname : name ∈ SettingsFile.names) :
    ∃ v, defaults.lookup name = some v := by
  have hall : ∀ n ∈ SettingsFile.names, (defaults.lookup n).isSome := by decide
  exact Option.isSome_iff_exists.1 (hall name hname)

/-- **The value that counts** is the one that the first layer gives. -/
theorem gives_iff (hholds : Holds layers h file overrides) (hname : name ∈ SettingsFile.names) :
    Gives h file overrides name v ↔ v = rawValue layers name := by
  have hnoHand : layers.override? name = none ↔ ∀ w, ¬ByHand overrides name w := by
    simp only [Option.eq_none_iff_forall_ne_some, ne_eq, hholds.byHand]
  have hnoVariable : layers.ofVariable? name = none ↔ ∀ w, ¬ByVariable h name w := by
    simp only [Option.eq_none_iff_forall_ne_some, ne_eq, hholds.byVariable]
  have hnoFile : layers.file.get? name = none ↔ ∀ w, ¬ByFile h file name w := by
    simp only [Option.eq_none_iff_forall_ne_some, ne_eq, hholds.byFile]
  constructor
  · intro hgives
    cases hgives with
    | byHand hv => simp [rawValue, SettingsLayers.raw?, (hholds.byHand name v).2 hv]
    | byVariable hhand hv =>
        simp [rawValue, SettingsLayers.raw?, hnoHand.2 hhand, (hholds.byVariable name v).2 hv]
    | byFile hhand hvariable hv =>
        simp [rawValue, SettingsLayers.raw?, hnoHand.2 hhand, hnoVariable.2 hvariable,
          (hholds.byFile name v).2 hv]
    | byDefault hhand hvariable hfile hv =>
        simp [rawValue, SettingsLayers.raw?, hnoHand.2 hhand, hnoVariable.2 hvariable,
          hnoFile.2 hfile, hv]
  · -- The layers are asked one after the other, and the first that answers has given the value.
    rintro rfl
    obtain ⟨d, hd⟩ := exists_default hname
    cases hhand : layers.override? name with
    | some w =>
        have hraw : rawValue layers name = w := by simp [rawValue, SettingsLayers.raw?, hhand]
        rw [hraw]
        exact .byHand ((hholds.byHand name w).1 hhand)
    | none =>
        cases hvariable : layers.ofVariable? name with
        | some w =>
            have hraw : rawValue layers name = w := by
              simp [rawValue, SettingsLayers.raw?, hhand, hvariable]
            rw [hraw]
            exact .byVariable (hnoHand.1 hhand) ((hholds.byVariable name w).1 hvariable)
        | none =>
            cases hfile : layers.file.get? name with
            | some w =>
                have hraw : rawValue layers name = w := by
                  simp [rawValue, SettingsLayers.raw?, hhand, hvariable, hfile]
                rw [hraw]
                exact .byFile (hnoHand.1 hhand) (hnoVariable.1 hvariable)
                  ((hholds.byFile name w).1 hfile)
            | none =>
                have hraw : rawValue layers name = d := by
                  simp [rawValue, SettingsLayers.raw?, hhand, hvariable, hfile, hd]
                rw [hraw]
                exact .byDefault (hnoHand.1 hhand) (hnoVariable.1 hvariable) (hnoFile.1 hfile) hd

end

/-! ## Checks -/

/-- The settings that seven values are checked to, with a checked directory of pages. -/
def ofRawDirectory (raw : String → Value) (docsDirectory : Checked Path) : Checked Settings :=
  (((((((Checked.form Settings.mk).also (Checked.under "docs_dir" docsDirectory)).also
    (Checked.under "docs_extension" (extension (raw "docs_extension")))).also
    (Checked.under "duplicate_policy"
      (Schema.choice DuplicatePolicy.byName (raw "duplicate_policy")))).also
    (Checked.under "workers" (Schema.positive (raw "workers")))).also
    (Checked.under "log_level" (level (raw "log_level")))).also
    (Checked.under "log_format" (Schema.choice formats (raw "log_format")))).also
    (Checked.under "preview_limit" (Schema.optional Schema.positive (raw "preview_limit")))

/-- The settings that seven values are checked to. -/
def ofRaw (h : Host) (raw : String → Value) : Except SettingsError Settings :=
  match directory h (raw "docs_dir") with
  | .error e => .error e
  | .ok docsDirectory =>
    match ofRawDirectory raw docsDirectory with
    | .ok s => .ok s
    | .error issues => .error (.issues issues)

section
variable {h h' : Host} {raw raw' : String → Value} {layers : SettingsLayers}

/-- A default passes its own check, so that it may be checked like a value that is given. -/
theorem setting_eq {α : Type} {name : String} {d : Value} {default : α}
    {check : Value → Checked α} (hd : check d = .ok default) :
    setting layers name default check =
      Checked.under name (check ((layers.raw? name).getD d)) := by
  rw [setting]
  cases layers.raw? name with
  | none =>
      rw [Option.getD_none, hd]
      rfl
  | some v => rfl

theorem ofDirectory_eq (docsDirectory : Checked Path) :
    ofDirectory layers docsDirectory = ofRawDirectory (rawValue layers) docsDirectory := by
  have hextension : extension (.text ".md") = .ok defaultExtension := by decide +kernel
  have hpolicy : Schema.choice DuplicatePolicy.byName (.text "first_wins") = .ok .firstWins := rfl
  have hworkers : Schema.positive (.int 1) = .ok 1 := rfl
  have hlevel : level (.text "INFO") = .ok .info := by decide +kernel
  have hformat : Schema.choice formats (.text "console") = .ok .console := rfl
  have hlimit : Schema.optional Schema.positive .null = .ok none := rfl
  rw [ofDirectory, ofRawDirectory, setting_eq hextension, setting_eq hpolicy, setting_eq hworkers,
    setting_eq hlevel, setting_eq hformat, setting_eq hlimit]
  rfl

/-- **Settings are what the values that count are checked to.** -/
theorem ofLayers_eq_ofRaw (h : Host) (layers : SettingsLayers) :
    ofLayers h layers = ofRaw h (rawValue layers) := by
  rw [ofLayers, ofRaw]
  simp only [ofDirectory_eq]
  rfl

theorem ofRaw_eq_ok_iff {s : Settings} : ofRaw h raw = .ok s ↔ Validates h raw s := by
  constructor
  · intro hs
    unfold ofRaw at hs
    split at hs
    · cases hs
    · next docsDirectory hdirectory =>
      split at hs
      · next settings hchecked =>
        cases hs
        -- The parts come off one by one, the last one first.
        obtain ⟨f, limit, h₁, hlimit, rfl⟩ := Checked.also_eq_ok_iff.1 hchecked
        obtain ⟨f, format, h₂, hformat, rfl⟩ := Checked.also_eq_ok_iff.1 h₁
        obtain ⟨f, logLevel, h₃, hlevel, rfl⟩ := Checked.also_eq_ok_iff.1 h₂
        obtain ⟨f, workers, h₄, hworkers, rfl⟩ := Checked.also_eq_ok_iff.1 h₃
        obtain ⟨f, policy, h₅, hpolicy, rfl⟩ := Checked.also_eq_ok_iff.1 h₄
        obtain ⟨f, extension, h₆, hextension, rfl⟩ := Checked.also_eq_ok_iff.1 h₅
        obtain ⟨f, p, h₇, hp, rfl⟩ := Checked.also_eq_ok_iff.1 h₆
        cases h₇
        rw [Checked.under_eq_ok_iff.1 hp] at hdirectory
        exact ⟨hdirectory, Checked.under_eq_ok_iff.1 hextension, Checked.under_eq_ok_iff.1 hpolicy,
          Checked.under_eq_ok_iff.1 hworkers, Checked.under_eq_ok_iff.1 hlevel,
          Checked.under_eq_ok_iff.1 hformat, Checked.under_eq_ok_iff.1 hlimit⟩
      · cases hs
  · intro hs
    simp only [ofRaw, ofRawDirectory, hs.docsDirectory, hs.docsExtension, hs.duplicatePolicy,
      hs.workers, hs.logLevel, hs.logFormat, hs.previewLimit]
    rfl

/-- There are settings just when all seven values pass. -/
theorem exists_validates_iff : (∃ s, Validates h raw s) ↔ Acceptable h raw := by
  constructor
  · rintro ⟨s, hs⟩
    exact ⟨⟨_, hs.docsDirectory⟩, ⟨_, hs.docsExtension⟩, ⟨_, hs.duplicatePolicy⟩,
      ⟨_, hs.workers⟩, ⟨_, hs.logLevel⟩, ⟨_, hs.logFormat⟩, ⟨_, hs.previewLimit⟩⟩
  · intro hall
    obtain ⟨p, hp⟩ := hall.docsDirectory
    obtain ⟨extension, hextension⟩ := hall.docsExtension
    obtain ⟨policy, hpolicy⟩ := hall.duplicatePolicy
    obtain ⟨workers, hworkers⟩ := hall.workers
    obtain ⟨logLevel, hlevel⟩ := hall.logLevel
    obtain ⟨format, hformat⟩ := hall.logFormat
    obtain ⟨limit, hlimit⟩ := hall.previewLimit
    exact ⟨⟨p, extension, policy, workers, logLevel, format, limit⟩, hp, hextension, hpolicy,
      hworkers, hlevel, hformat, hlimit⟩

/-! ## What is masked -/

theorem directory_congr (hdirectory : h'.directory = h.directory) (hhome : h'.home = h.home)
    (hhomes : h'.homes = h.homes) (v : Value) : directory h' v = directory h v := by
  have hexpand : h'.expandHome = h.expandHome := by
    funext p
    simp only [Host.expandHome, Host.homeOf, hhome, hhomes]
  have hresolve : h'.resolve = h.resolve := by
    funext p
    rw [Host.resolve, Host.resolve, hdirectory]
  have habsolute : absolute h' = absolute h := by
    funext p
    simp only [absolute, hexpand, hresolve]
  cases v <;> simp only [directory, habsolute]

/-- Nothing but the seven values counts. -/
theorem ofRaw_congr (hdirectory : directory h' = directory h)
    (hraw : ∀ name ∈ SettingsFile.names, raw' name = raw name) : ofRaw h' raw' = ofRaw h raw := by
  simp only [SettingsFile.names, List.forall_mem_cons] at hraw
  obtain ⟨hdocs, hextension, hpolicy, hworkers, hlevel, hformat, hlimit, -⟩ := hraw
  simp only [ofRaw, ofRawDirectory, hdirectory, hdocs, hextension, hpolicy, hworkers, hlevel,
    hformat, hlimit]

end

section
variable {h h' : Host} {file file' : Option Path} {overrides : List (String × Value)}
  {name : String} {v : Value}

/-- What is given does not depend on what is masked. -/
theorem AgreeUnmasked.gives (hagree : AgreeUnmasked overrides h file h' file')
    (hname : name ∈ SettingsFile.names) (hgives : Gives h file overrides name v) :
    Gives h' file' overrides name v := by
  have hnone (hhand : ∀ w, ¬ByHand overrides name w) (hvariable : ∀ w, ¬ByVariable h name w) :
      ∀ w, ¬ByVariable h' name w := fun w hw =>
    hvariable w ((hagree.ofVariable name hname hhand w).1 hw)
  cases hgives with
  | byHand hv => exact .byHand hv
  | byVariable hhand hv => exact .byVariable hhand ((hagree.ofVariable name hname hhand v).2 hv)
  | byFile hhand hvariable hv =>
      exact .byFile hhand (hnone hhand hvariable) ((hagree.ofFile name hname hhand hvariable v).2 hv)
  | byDefault hhand hvariable hfile hv =>
      refine .byDefault hhand (hnone hhand hvariable) (fun w hw => hfile w ?_) hv
      exact (hagree.ofFile name hname hhand hvariable w).1 hw

/-- **Each setting is what the first layer that gives it is checked to**, and what stands in a layer
behind has no part in the outcome, whether it would pass its check or not. -/
theorem load_layers (hread : Readable h file) (overrides : List (String × Value)) :
    ∃ raw : String → Value,
      (∀ name ∈ SettingsFile.names, ∀ v, Gives h file overrides name v ↔ v = raw name) ∧
      (∀ s, load h file overrides = .ok s ↔ Validates h raw s) ∧
      ((∃ s, load h file overrides = .ok s) ↔ Acceptable h raw) ∧
      ∀ h' file', Readable h' file' → AgreeUnmasked overrides h file h' file' →
        load h' file' overrides = load h file overrides := by
  obtain ⟨layers, hholds, hload⟩ := exists_holds hread overrides
  have hok : ∀ s, load h file overrides = .ok s ↔ Validates h (rawValue layers) s := by
    intro s
    rw [hload, ofLayers_eq_ofRaw, ofRaw_eq_ok_iff]
  refine ⟨rawValue layers, fun name hname v => gives_iff hholds hname, hok, ?_, ?_⟩
  · rw [← exists_validates_iff]
    exact exists_congr hok
  · intro h' file' hread' hagree
    obtain ⟨layers', hholds', hload'⟩ := exists_holds hread' overrides
    have hraw : ∀ name ∈ SettingsFile.names, rawValue layers' name = rawValue layers name := by
      intro name hname
      have hgives : Gives h' file' overrides name (rawValue layers name) :=
        hagree.gives hname ((gives_iff hholds hname).2 rfl)
      exact ((gives_iff hholds' hname).1 hgives).symm
    have hdirectory : directory h' = directory h :=
      funext (directory_congr hagree.directory hagree.home hagree.homes)
    rw [hload, hload', ofLayers_eq_ofRaw, ofLayers_eq_ofRaw]
    exact ofRaw_congr hdirectory hraw

end

/-- A host with a settings file that has a section of its own. Its number of workers is no number
and its level is no level, but a variable masks the one and a value set by hand the other. -/
def maskingHost : Host where
  directory := ["home"]
  tree := { files := [(["home", "conf", "viewer.yaml"], .bytes (Text.Utf8.encodeString
    "gcodedocs:\n  docs_dir: pages\n  workers: many\n  log_level: 5\n"))] }
  environment := [("GcodeDocs_Workers", "4")]

/-- The settings file. -/
def maskingFile : Path := ⟨.relative, ["conf", "viewer.yaml"]⟩

/-- Values set by hand, of which one is null. -/
def maskingOverrides : List (String × Value) :=
  [("log_level", .text "debug"), ("docs_extension", .null)]

theorem load_layers_masking :
    Readable maskingHost (some maskingFile) ∧
      ∃ raw, (∀ v, Gives maskingHost (some maskingFile) maskingOverrides "workers" v ↔
          v = raw "workers") ∧
        Validates maskingHost raw ⟨⟨.root, ["home", "conf", "pages"]⟩, ".md", .firstWins, 4,
          .debug, .console, none⟩ := by
  have hread : Readable maskingHost (some maskingFile) := by
    constructor
    · intro path hpath
      cases hpath
      have hloads : (SettingsFile.load maskingHost maskingFile).isOk = true := by decide +kernel
      cases hes : SettingsFile.load maskingHost maskingFile with
      | error e =>
          rw [hes] at hloads
          cases hloads
      | ok es => exact ⟨es, rfl⟩
    · exact List.nodup_singleton _
  obtain ⟨raw, hgives, hok, -⟩ := load_layers hread maskingOverrides
  exact ⟨hread, raw, hgives "workers" (by decide), (hok _).1 (by decide +kernel)⟩

end OpcodeAtlas.Settings
