import OpcodeAtlas.Proofs.Schema.Issues
import OpcodeAtlas.Proofs.Settings.Answers
import OpcodeAtlas.Proofs.Value.ShownPath

/-!
# One value in two layers

A setting can be given by a file or by hand. With nothing else around, a value has the same outcome
in both layers for every setting but the directory of pages (`Settings.load_file_eq_byHand`), since
both layers hand over the value as it is. The directory of pages is different: the file takes the
text of whatever value stands there for a path, in front of all checks.

For the text of a path this is what the file is for: a relative directory is seen from the directory
of the file. Every other value is refused by hand, but from a file its text becomes the name of a
directory. And a home directory that no name can have is an issue by hand, but ends the reading of a
file. `Settings.meansTheSame_iff` tells for each value whether the layers agree.
-/

set_option autoImplicit false

namespace OpcodeAtlas.Settings

/-! ## The outcome of one value -/

/-- What comes of loading settings of which one is given: settings, issues with this one, or a home
directory that is not known. -/
inductive OutcomeOf (name : String) : Except SettingsError Settings → Prop where
  | settings (s : Settings) : OutcomeOf name (.ok s)
  | issues {found : List Issue} (hplace : ∀ i ∈ found, i.Concerns name) :
      OutcomeOf name (.error (.issues found))
  | unknownHome (hname : name = "docs_dir") : OutcomeOf name (.error (.abort (.path .unknownHome)))

/-- A value means the same in a file as by hand: the outcome is the same, but for a relative
directory of pages, which is moved below the directory of the file. -/
inductive MeansTheSame (h : Host) (path : Path) (name : String) (v : Value) : Prop where
  | outcome (hsame : load h (some path) [] = load h none [(name, v)])
  | anchored {s : String} {p : Path} (hname : name = "docs_dir") (hv : IsPathText s v)
      (hhome : h.expandHome (Path.ofString s) = .ok p) (hrelative : p.isAbsolute = false)
      (hmoved : load h (some path) [] =
        load h none [(name, .path (path.parent.join (Path.ofString s)).text)])

section
variable {h : Host} {path : Path} {name : String} {v w : Value}

theorem IsPathText.shown {s : String} (hv : IsPathText s v) :
    v.isShowable = true ∧ v.shown = s := by
  cases hv with
  | text => exact ⟨rfl, rfl⟩
  | path => exact ⟨rfl, rfl⟩

theorem IsPathText.directory_eq {s : String} (hv : IsPathText s v) :
    directory h v = absolute h (Path.ofString s) := by
  cases hv with
  | text => rfl
  | path => rfl

/-- A value that is no text of a path is no directory. -/
theorem directory_of_not_isPathText (hv : ∀ s, ¬IsPathText s v) :
    directory h v = .ok (Checked.refuse .notPath) := by
  cases v with
  | text s => exact absurd .text (hv s)
  | path s => exact absurd .path (hv s)
  | _ => rfl

/-- A text of a path is never told to be none: what is wrong with it is told by a rule. -/
theorem absolute_ne_notPath (p : Path) : absolute h p ≠ .ok (Checked.refuse .notPath) := by
  intro hnotPath
  unfold absolute at hnotPath
  split at hnotPath
  · cases hnotPath
  · cases hnotPath
  · split at hnotPath
    · cases hnotPath
    · cases hnotPath

/-! ## The seven values -/

/-- The values of the settings, one of which is given. -/
def oneGiven (name : String) (w : Value) (n : String) : Value :=
  if n = name then w else (defaults.lookup n).getD .null

theorem rawValue_byHand (hw : w ≠ .null) :
    rawValue ⟨[(name, w)], [], []⟩ = oneGiven name w := by
  funext n
  rw [rawValue, oneGiven, SettingsLayers.raw?]
  by_cases hn : n = name
  · have hgiven : SettingsLayers.override? ⟨[(name, w)], [], []⟩ n = some w := by
      apply override?_eq_some_iff.2
      exact ⟨by simp [hn], hw⟩
    rw [hgiven, if_pos hn]
    rfl
  · have hlookup : [(name, w)].lookup n = none := by
      rw [List.lookup_cons, beq_eq_false_iff_ne.2 hn]
      rfl
    have hother : SettingsLayers.override? ⟨[(name, w)], [], []⟩ n = none := by
      rw [SettingsLayers.override?, hlookup]
    rw [hother, if_neg hn]
    rfl

theorem rawValue_byFile : rawValue ⟨[], [], [(.text name, w)]⟩ = oneGiven name w := by
  funext n
  have hget : Entries.get? [(.text name, w)] n = if n = name then some w else none := by
    simp only [Entries.get?_cons_text, Entries.get?_nil, eq_comm]
  rw [rawValue, oneGiven, SettingsLayers.raw?]
  have hraw : SettingsLayers.override? ⟨[], [], [(.text name, w)]⟩ n = none := rfl
  have hvariable : SettingsLayers.ofVariable? ⟨[], [], [(.text name, w)]⟩ n = none := rfl
  simp only [hraw, hvariable, hget]
  by_cases hn : n = name
  · simp [hn]
  · simp [hn]

/-- The value of one setting, given by hand. -/
theorem load_byHand (henv : h.environment = []) (hw : w ≠ .null) :
    load h none [(name, w)] = ofRaw h (oneGiven name w) := by
  rw [load, henv, ofLayers_eq_ofRaw, rawValue_byHand hw]

/-- The value of one setting, given by a file that holds nothing else. -/
theorem load_byFile (henv : h.environment = [])
    (hload : SettingsFile.load h path = .ok [(.text name, w)]) :
    load h (some path) [] = ofRaw h (oneGiven name w) := by
  rw [load]
  simp only [hload]
  rw [henv, ofLayers_eq_ofRaw, rawValue_byFile]

/-! ## What is wrong with the one value -/

/-- Defaults pass their checks, so that an issue concerns the setting that is given. -/
theorem concerns_of_mem_part {α : Type} {n : String} {d : Value} {check : Value → Checked α}
    (hd : (defaults.lookup n).getD .null = d) (hpass : (check d).issues = []) {i : Issue}
    (hi : i ∈ (Checked.under n (check (oneGiven name w n))).issues) : i.Concerns name := by
  by_cases hn : n = name
  · exact hn ▸ Checked.concerns_of_mem_under hi
  · rw [oneGiven, if_neg hn, hd, Checked.issues_under, hpass] at hi
    cases hi

theorem concerns_of_mem_ofRawDirectory {c : Checked Path}
    (hc : name ≠ "docs_dir" → c.issues = []) {i : Issue}
    (hi : i ∈ (ofRawDirectory (oneGiven name w) c).issues) : i.Concerns name := by
  have hextension : (extension (.text ".md")).issues = [] := by decide +kernel
  have hlevel : (level (.text "INFO")).issues = [] := by decide +kernel
  simp only [ofRawDirectory, Checked.issues_also, Checked.issues_form, List.nil_append,
    List.mem_append, or_assoc] at hi
  -- One case for each of the seven settings.
  rcases hi with hi | hi | hi | hi | hi | hi | hi
  · by_cases hname : name = "docs_dir"
    · exact hname ▸ Checked.concerns_of_mem_under hi
    · rw [Checked.issues_under, hc hname] at hi
      cases hi
  · exact concerns_of_mem_part rfl hextension hi
  · exact concerns_of_mem_part rfl rfl hi
  · exact concerns_of_mem_part rfl rfl hi
  · exact concerns_of_mem_part rfl hlevel hi
  · exact concerns_of_mem_part rfl rfl hi
  · exact concerns_of_mem_part rfl rfl hi

/-- Without an outcome for the directory of pages there is one of a path. -/
theorem directory_eq_error {e : SettingsError} (hdirectory : directory h v = .error e) :
    e = .abort (.path .unknownHome) := by
  have habsolute (p : Path) (hp : absolute h p = .error e) : e = .abort (.path .unknownHome) := by
    unfold absolute at hp
    split at hp
    · cases hp
      rfl
    · cases hp
    · split at hp
      · cases hp
      · cases hp
  cases v with
  | text s => exact habsolute _ hdirectory
  | path s => exact habsolute _ hdirectory
  | _ => cases hdirectory

/-- The default directory of pages can be used everywhere. -/
theorem directory_default (h : Host) :
    directory h defaultDirectory = .ok (.ok (h.resolve ⟨.relative, ["docs", "gcode"]⟩)) := by
  have hpath : Path.ofString "docs/gcode" = ⟨.relative, ["docs", "gcode"]⟩ := by decide
  have hhome : h.expandHome ⟨.relative, ["docs", "gcode"]⟩ =
      .ok ⟨.relative, ["docs", "gcode"]⟩ := rfl
  have hcheck : Path.check ⟨.relative, ["docs", "gcode"]⟩ = .ok () := by decide
  rw [defaultDirectory, directory, absolute, hpath]
  simp only [hhome, hcheck]

/-- One value has settings or issues of its own, but for a home directory that is not known. -/
theorem outcomeOf_ofRaw : OutcomeOf name (ofRaw h (oneGiven name w)) := by
  rw [ofRaw]
  cases hdirectory : directory h (oneGiven name w "docs_dir") with
  | error e =>
      rw [directory_eq_error hdirectory]
      apply OutcomeOf.unknownHome
      by_contra hname
      have hdefault : oneGiven name w "docs_dir" = defaultDirectory := if_neg (Ne.symm hname)
      rw [hdefault, directory_default] at hdirectory
      cases hdirectory
  | ok c =>
      have hc : name ≠ "docs_dir" → c.issues = [] := by
        intro hname
        have hdefault : oneGiven name w "docs_dir" = defaultDirectory := if_neg (Ne.symm hname)
        rw [hdefault, directory_default] at hdirectory
        cases hdirectory
        rfl
      dsimp only
      cases hchecked : ofRawDirectory (oneGiven name w) c with
      | ok s => exact .settings s
      | error found =>
          apply OutcomeOf.issues
          intro i hi
          apply concerns_of_mem_ofRawDirectory hc
          rw [hchecked]
          exact hi

/-! ## The directory of pages by hand -/

/-- The defaults with a directory of pages. -/
def withDirectory (p : Path) : Settings :=
  ⟨p, defaultExtension, .firstWins, 1, .info, .console, none⟩

theorem ofRawDirectory_oneGiven (c : Checked Path) :
    ofRawDirectory (oneGiven "docs_dir" w) c = (Checked.under "docs_dir" c).map withDirectory := by
  have hextension : extension (.text ".md") = .ok defaultExtension := by decide +kernel
  have hlevel : level (.text "INFO") = .ok .info := by decide +kernel
  -- All other values are defaults, which pass.
  have hothers : ofRawDirectory (oneGiven "docs_dir" w) c =
      (((((((Checked.form Settings.mk).also (Checked.under "docs_dir" c)).also
        (Checked.under "docs_extension" (extension (.text ".md")))).also
        (Checked.under "duplicate_policy" (.ok .firstWins))).also
        (Checked.under "workers" (.ok 1))).also
        (Checked.under "log_level" (level (.text "INFO")))).also
        (Checked.under "log_format" (.ok .console))).also
        (Checked.under "preview_limit" (.ok none)) := rfl
  rw [hothers, hextension, hlevel]
  cases c with
  | ok p => rfl
  | error found => rfl

/-- With a directory of pages by hand there are the defaults for everything else, or its issues. -/
theorem load_byHand_directory (henv : h.environment = []) (hw : w ≠ .null) :
    load h none [("docs_dir", w)] = (directory h w).bind fun c =>
      ((Checked.under "docs_dir" c).map withDirectory).mapError .issues := by
  have hgiven : oneGiven "docs_dir" w "docs_dir" = w := if_pos rfl
  rw [load_byHand henv hw, ofRaw, hgiven]
  cases directory h w with
  | error e => rfl
  | ok c =>
      simp only [ofRawDirectory_oneGiven]
      cases c with
      | ok p => rfl
      | error found => rfl

/-- No path is refused as what no path is. -/
theorem load_byHand_path_ne (henv : h.environment = []) (s : String) :
    load h none [("docs_dir", .path s)] ≠ .error (.issues [⟨["docs_dir"], .notPath⟩]) := by
  have hnull : Value.path s ≠ .null := nofun
  intro hload
  rw [load_byHand_directory henv hnull] at hload
  cases hdirectory : directory h (.path s) with
  | error e =>
      rw [hdirectory] at hload
      cases directory_eq_error hdirectory
      cases hload
  | ok c =>
      rw [hdirectory] at hload
      cases c with
      | ok p => cases hload
      | error found =>
          -- The one issue would be that of the path.
          have hfound : found.map (fun i => { i with place := "docs_dir" :: i.place }) =
              [⟨["docs_dir"], .notPath⟩] := SettingsError.issues.inj (Except.error.inj hload)
          obtain ⟨⟨place, cause⟩, rfl, hissue⟩ := List.map_eq_singleton_iff.1 hfound
          cases hissue
          exact absolute_ne_notPath _ hdirectory

/-! ## The value in the file -/

/-- A file that holds one setting hands it over, the directory of pages with its place. -/
theorem load_settingsFile (hname : name ∈ SettingsFile.names)
    (hentries : SettingsFile.entries h path = .ok [(.text name, v)]) :
    SettingsFile.load h path = SettingsFile.anchor h path [(.text name, v)] := by
  have hadmitted : SettingsFile.checkNames path [(.text name, v)] = .ok [(.text name, v)] := by
    apply SettingsFile.checkNames_eq_ok_iff.2
    have hisName : SettingsFile.isName (.text name) = true := List.contains_iff_mem.2 hname
    exact ⟨rfl, by simp [SettingsFile.unknownKeys, hisName]⟩
  rw [SettingsFile.load, hentries]
  simp only [hadmitted]

/-- **Both layers agree on every setting but the directory of pages.** -/
theorem load_file_eq_byHand (henv : h.environment = []) (hname : name ∈ SettingsFile.names)
    (hnull : v ≠ .null) (hentries : SettingsFile.entries h path = .ok [(.text name, v)])
    (hother : name ≠ "docs_dir") : load h (some path) [] = load h none [(name, v)] := by
  have hget : Entries.get? [(.text name, v)] "docs_dir" = none := by
    rw [Entries.get?_cons_text, if_neg hother, Entries.get?_nil]
  have hload : SettingsFile.load h path = .ok [(.text name, v)] := by
    rw [load_settingsFile hname hentries, SettingsFile.anchor, hget]
  rw [load_byFile henv hload, load_byHand henv hnull]

/-- Where a value that can be shown leads, seen from the directory of the file. -/
theorem anchorValue_eq (hshowable : v.isShowable = true) :
    SettingsFile.anchorValue h path v =
      match h.expandHome (Path.ofString v.shown) with
      | .error f => .error (.abort (.path f))
      | .ok p => .ok (if p.isAbsolute then v
          else .path (path.parent.join (Path.ofString v.shown)).text) := by
  rw [SettingsFile.anchorValue, hshowable]
  rfl

theorem anchorValue_ne_null (hnull : v ≠ .null)
    (hanchored : SettingsFile.anchorValue h path v = .ok w) : w ≠ .null := by
  rintro rfl
  unfold SettingsFile.anchorValue at hanchored
  split at hanchored
  · cases hanchored
  · dsimp only at hanchored
    split at hanchored
    · cases hanchored
    · split at hanchored
      · exact hnull (Except.ok.inj hanchored)
      · cases hanchored

/-- The directory of pages is taken from the text of its value, whatever the value is. -/
theorem load_file_directory (henv : h.environment = []) (hnull : v ≠ .null)
    (hentries : SettingsFile.entries h path = .ok [(.text "docs_dir", v)]) :
    load h (some path) [] = (SettingsFile.anchorValue h path v).bind fun w =>
      load h none [("docs_dir", w)] := by
  have hload : SettingsFile.load h path =
      (SettingsFile.anchorValue h path v).map fun w => [(.text "docs_dir", w)] := by
    rw [load_settingsFile (by decide) hentries, SettingsFile.anchor]
    have hget : Entries.get? [(.text "docs_dir", v)] "docs_dir" = some v := rfl
    simp only [hget]
    rfl
  cases hanchored : SettingsFile.anchorValue h path v with
  | error e =>
      rw [load, hload, hanchored]
      rfl
  | ok w =>
      rw [hanchored] at hload
      rw [load_byFile henv hload, ← load_byHand henv (anchorValue_ne_null hnull hanchored)]
      rfl

/-- The text of a path in a file: an absolute one stays, a relative one is moved. -/
theorem meansTheSame_of_isPathText (henv : h.environment = []) (hnull : v ≠ .null)
    (hentries : SettingsFile.entries h path = .ok [(.text "docs_dir", v)]) {s : String}
    (hv : IsPathText s v) (husable : h.expandHome (Path.ofString s) ≠ .error .nullCharacter) :
    MeansTheSame h path "docs_dir" v := by
  have hload := load_file_directory henv hnull hentries
  rw [anchorValue_eq hv.shown.1, hv.shown.2] at hload
  cases hhome : h.expandHome (Path.ofString s) with
  | error f =>
      cases f with
      | nullCharacter => exact absurd hhome husable
      | unknownHome =>
          -- By hand the home directory is looked for as well, and is not found either.
          have hdirectory : directory h v = .error (.abort (.path .unknownHome)) := by
            rw [hv.directory_eq, absolute, hhome]
          apply MeansTheSame.outcome
          rw [hload, hhome, load_byHand_directory henv hnull, hdirectory]
          rfl
  | ok p =>
      rw [hhome] at hload
      cases habsolute : p.isAbsolute with
      | true =>
          apply MeansTheSame.outcome
          rw [hload]
          simp only [habsolute, if_true]
          rfl
      | false =>
          apply MeansTheSame.anchored rfl hv hhome habsolute
          rw [hload]
          simp only [habsolute]
          rfl

/-- By hand, what is no text of a path is refused. -/
theorem load_byHand_notPath (henv : h.environment = []) (hnull : v ≠ .null)
    (hv : ∀ s, ¬IsPathText s v) :
    load h none [("docs_dir", v)] = .error (.issues [⟨["docs_dir"], .notPath⟩]) := by
  rw [load_byHand_directory henv hnull, directory_of_not_isPathText hv]
  rfl

/-- In a file, the text of what is no text of a path becomes the name of a directory. -/
theorem load_file_notPath (henv : h.environment = []) (hnull : v ≠ .null)
    (hentries : SettingsFile.entries h path = .ok [(.text "docs_dir", v)])
    (hv : ∀ s, ¬IsPathText s v) :
    load h (some path) [] =
      if v.isShowable then
        load h none [("docs_dir", .path (path.parent.join (Path.ofString v.shown)).text)]
      else .error .unprintable := by
  have htext : ∀ s, v ≠ .text s := by
    rintro s rfl
    exact hv s .text
  have hpath : ∀ s, v ≠ .path s := by
    rintro s rfl
    exact hv s .path
  obtain ⟨hhome, hrelative⟩ := Value.relative_shown h htext hpath
  rw [load_file_directory henv hnull hentries]
  cases hshowable : v.isShowable with
  | false =>
      rw [SettingsFile.anchorValue, hshowable]
      rfl
  | true =>
      rw [anchorValue_eq hshowable, hhome]
      simp only [hrelative]
      rfl

/-- A home directory that no name can have is an issue by hand and ends the reading of a file. -/
theorem load_nullCharacter (henv : h.environment = []) (hnull : v ≠ .null)
    (hentries : SettingsFile.entries h path = .ok [(.text "docs_dir", v)]) {s : String}
    (hv : IsPathText s v) (hhome : h.expandHome (Path.ofString s) = .error .nullCharacter) :
    load h none [("docs_dir", v)] =
        .error (.issues [⟨["docs_dir"], .rule "embedded null byte"⟩]) ∧
      load h (some path) [] = .error (.abort (.path .nullCharacter)) := by
  constructor
  · rw [load_byHand_directory henv hnull, hv.directory_eq, absolute, hhome]
    rfl
  · rw [load_file_directory henv hnull hentries, anchorValue_eq hv.shown.1, hv.shown.2, hhome]
    rfl

end

/-- The number that is all that is held, with its name. -/
def oneNumber? : Except SettingsError Entries → Option (String × Int)
  | .ok [(.text name, .int n)] => some (name, n)
  | _ => none

theorem eq_of_oneNumber? {read : Except SettingsError Entries} {name : String} {n : Int}
    (hnumber : oneNumber? read = some (name, n)) : read = .ok [(.text name, .int n)] := by
  unfold oneNumber? at hnumber
  split at hnumber
  · cases hnumber
    rfl
  · cases hnumber

/-- A host with a settings file in which a number stands for the directory of pages. -/
def numberedHost : Host where
  directory := ["home", "work"]
  tree := { files :=
    [(["home", "work", "c.yaml"], .bytes (Text.Utf8.encodeString "docs_dir: 5\n"))] }

/-- The settings file. -/
def numberedFile : Path := ⟨.relative, ["c.yaml"]⟩

end OpcodeAtlas.Settings
