import OpcodeAtlas.Proofs.Log.Fields
import OpcodeAtlas.Proofs.Registry.Duplicates

/-!
# What a build tells in its log

Between the number of pages at the start and the totals at the end, a build logs one warning for
each page that it skips and one for each conflict (`BuildWarning`). The warnings are the account of
the registry itself: those of skipped pages are its failures, in order and one for one, and those of
conflicts are its conflicts (`BuildState.Reports`). They come in the order of the pages.

A build that is refused for a duplicate logs what a build in which first declarations count logs up
to its first conflict (`RegistryBuild.log_of_refused`).
-/

set_option autoImplicit false

namespace OpcodeAtlas

/-! ## Records -/

/-- A record as a build logs it: in front of all other fields it tells the stage. -/
def BuildLog.told (level : LogLevel) (message : String) (fields : LogFields) : LogRecord :=
  ⟨level, message, ("stage", .text "registry") :: fields, false⟩

/-- What a build warns of. -/
inductive BuildWarning where
  | skip (p : SkippedPage)
  | clash (c : CodeConflict)
  deriving DecidableEq, Repr

namespace BuildWarning

/-- The record of a warning. -/
def record : BuildWarning → LogRecord
  | .skip p => BuildLog.told .warning "Skipping documentation file"
    [("doc_path", .text p.path.text), ("error", .text p.text), ("error_code", .text p.cause.code)]
  | .clash c => BuildLog.told .warning "Duplicate documentation code"
    [("code", .text c.code), ("kept", .text c.kept.text), ("discarded", .text c.discarded.text),
      ("error_code", .text "DUPLICATE_CODE")]

/-- The page that a warning is about, if it is skipped. -/
def skipped? : BuildWarning → Option SkippedPage
  | .skip p => some p
  | .clash _ => none

/-- The conflict that a warning is about. -/
def conflict? : BuildWarning → Option CodeConflict
  | .skip _ => none
  | .clash c => some c

/-- The page at which a warning is given: of the two pages of a conflict, it is the second one. -/
def page (policy : DuplicatePolicy) : BuildWarning → Path
  | .skip p => p.path
  | .clash c =>
    match policy with
    | .lastWins => c.kept
    | _ => c.discarded

/-- The error code of a warning. -/
def errorCode : BuildWarning → String
  | .skip p => p.cause.code
  | .clash _ => "DUPLICATE_CODE"

/-- Every warning tells the stage and its error code. -/
theorem told_by_record (w : BuildWarning) :
    w.record.level = .warning ∧ w.record.fields.get? "stage" = some (.text "registry") ∧
      w.record.fields.get? "error_code" = some (.text w.errorCode) := by
  cases w with
  | skip p => exact ⟨rfl, rfl, rfl⟩
  | clash c => exact ⟨rfl, rfl, rfl⟩

/-- Error codes are words in upper case. -/
theorem upper_errorCode (w : BuildWarning) :
    w.errorCode ≠ "" ∧ Text.LetterCase.upperString w.errorCode = w.errorCode := by
  have hcodes : ∀ code ∈ ["DECODE_ERROR", "ENCODING_ERROR", "READ_ERROR", "DUPLICATE_CODE"],
      code ≠ "" ∧ Text.LetterCase.upperString code = code := by decide +kernel
  apply hcodes
  cases w with
  | skip p =>
      rw [errorCode]
      cases p.cause with
      | fault f => simp [SkipCause.code]
      | encoding m => simp [SkipCause.code]
      | unreadable e => simp [SkipCause.code]
  | clash c => simp [errorCode]

end BuildWarning

namespace BuildLog

/-- The error code of a warning is told as it is. -/
theorem errorCode_eq {fields : LogFields} {w : BuildWarning}
    (hget : fields.get? "error_code" = some (.text w.errorCode)) :
    LogContext.errorCode fields = w.errorCode := by
  have htruthy : fields.truthy? "error_code" = some (.text w.errorCode) := by
    rw [LogFields.truthy?, hget, Option.filter_some]
    exact if_pos (bne_iff_ne.2 w.upper_errorCode.1)
  rw [LogContext.errorCode, htruthy]
  exact w.upper_errorCode.2

/-- **Every record of a build tells the stage first**, and then its own fields as they are. If the
stage and the error code are asked for, both are there already. -/
theorem event_eq_told {method : LogMethod} {message : String} {own : LogFields}
    (hnew : ("stage" :: own.map (·.1)).Nodup) (htrace : method.trace = false)
    (hcode : method.accountable = true →
      ∃ w : BuildWarning, own.get? "error_code" = some (.text w.errorCode)) :
    context.event method message own = told method.level message own := by
  obtain ⟨hstage, hown⟩ := List.nodup_cons.1 hnew
  -- The stage of the context goes to the end of the fields first.
  have hstaged : LogContext.withStage context method own =
      own ++ [("stage", .text "registry")] := by
    have hcontext : context.fields.truthy? "stage" = some (.text "registry") := rfl
    rw [LogContext.withStage, LogFields.get?_eq_none hstage, hcontext]
    exact LogFields.put_of_new hstage
  have hcomplete : LogContext.complete context method own =
      own ++ [("stage", .text "registry")] := by
    rw [LogContext.complete, hstaged]
    split
    next haccountable =>
      obtain ⟨w, hw⟩ := hcode haccountable
      have hget : LogFields.get? (own ++ [("stage", .text "registry")]) "error_code" =
          some (.text w.errorCode) := LogFields.get?_append_of_some hw
      rw [errorCode_eq hget]
      exact LogFields.put_of_get? hget
    · rfl
  -- The fields of the context stand in front, and there the stage is told once more.
  have hfront : LogFields.putAll [("stage", .text "registry")] own =
      ("stage", .text "registry") :: own := LogFields.putAll_of_new hnew
  rw [LogContext.event, hcomplete, htrace, told]
  congr 1
  rw [LogFields.putAll, List.foldl_append]
  change LogFields.put "stage" (.text "registry") (LogFields.putAll _ own) = _
  exact (congrArg _ hfront).trans (LogFields.put_of_get? rfl)

theorem scanning_eq (directory : Path) (files : Nat) :
    scanning directory files = told .debug "Scanning documentation directory"
      [("directory", .text directory.text), ("files", .int files)] :=
  event_eq_told (by simp) rfl nofun

theorem built_eq (r : Registry) :
    built r = told .info "Documentation registry built"
      [("directory", .text r.directory.text), ("codes", .int r.size),
        ("failures", .int r.failures.length), ("conflicts", .int r.conflicts.length)] :=
  event_eq_told (by simp) rfl nofun

theorem skipping_eq (p : SkippedPage) : skipping p = (BuildWarning.skip p).record :=
  event_eq_told (by simp) rfl fun _ => ⟨.skip p, rfl⟩

theorem duplicate_eq (c : CodeConflict) : duplicate c = (BuildWarning.clash c).record :=
  event_eq_told (by simp) rfl fun _ => ⟨.clash c, rfl⟩

end BuildLog

/-! ## What a run puts on record -/

/-- The page that an event is about. -/
def MergeEvent.page : MergeEvent → Path
  | .skip p => p.path
  | .declare d => d.source

namespace BuildState

variable {policy : DuplicatePolicy} {s t u : BuildState} {e : MergeEvent}
  {es more : List MergeEvent} {ws vs : List BuildWarning}

/-- A run from one state to another gives some warnings: they are what it logs and what it puts on
record, in order, and each is given at the page of an event. -/
structure Reports (policy : DuplicatePolicy) (s : BuildState) (es : List MergeEvent)
    (ws : List BuildWarning) (t : BuildState) : Prop where
  log : t.log = s.log ++ ws.map BuildWarning.record
  failures : t.registry.failures = s.registry.failures ++ ws.filterMap BuildWarning.skipped?
  conflicts : t.registry.conflicts = s.registry.conflicts ++ ws.filterMap BuildWarning.conflict?
  directory : t.registry.directory = s.registry.directory
  pages : (ws.map (BuildWarning.page policy)).Sublist (es.map MergeEvent.page)

theorem Reports.refl (s : BuildState) : Reports policy s [] [] s :=
  ⟨(List.append_nil _).symm, (List.append_nil _).symm, (List.append_nil _).symm, rfl, .slnil⟩

/-- Runs that follow each other give the warnings of both. -/
theorem Reports.trans (h : Reports policy s es ws t) (h' : Reports policy t more vs u) :
    Reports policy s (es ++ more) (ws ++ vs) u := by
  constructor
  · rw [h'.log, h.log, List.map_append, List.append_assoc]
  · rw [h'.failures, h.failures, List.filterMap_append, List.append_assoc]
  · rw [h'.conflicts, h.conflicts, List.filterMap_append, List.append_assoc]
  · exact h'.directory.trans h.directory
  · rw [List.map_append, List.map_append]
    exact h.pages.append h'.pages

/-- **One event gives one warning, or none.** -/
theorem exists_report (heffect : Effect policy s e t) : ∃ ws, Reports policy s [e] ws t := by
  cases heffect with
  | skip p =>
      refine ⟨[.skip p], ?_, rfl, (List.append_nil _).symm, rfl, .refl _⟩
      rw [List.map_singleton, ← BuildLog.skipping_eq]
      rfl
  | enter d new =>
      exact ⟨[], (List.append_nil _).symm, (List.append_nil _).symm, (List.append_nil _).symm, rfl,
        List.nil_sublist _⟩
  | keep d owner owned first =>
      subst first
      refine ⟨[.clash ⟨d.code, owner, d.source⟩], ?_, (List.append_nil _).symm, rfl, rfl, .refl _⟩
      rw [List.map_singleton, ← BuildLog.duplicate_eq]
      rfl
  | replace d owner owned last =>
      subst last
      refine ⟨[.clash ⟨d.code, d.source, owner⟩], ?_, (List.append_nil _).symm, rfl, rfl, .refl _⟩
      rw [List.map_singleton, ← BuildLog.duplicate_eq]
      rfl

/-- **A run tells all that it puts on record, and nothing else.** -/
theorem exists_reports (hrun : follow policy s es = .ok t) : ∃ ws, Reports policy s es ws t := by
  refine follow_induction (motive := fun es t => ∃ ws, Reports policy s es ws t)
    ⟨[], .refl s⟩ ?_ hrun
  rintro es t e u ⟨ws, hws⟩ heffect
  obtain ⟨vs, hvs⟩ := exists_report heffect
  exact ⟨ws ++ vs, hws.trans hvs⟩

/-- Without a conflict on record there is no warning of one. -/
theorem Reports.message_ne (h : Reports policy s es ws t)
    (hnone : t.registry.conflicts = s.registry.conflicts) :
    ∀ x ∈ ws.map BuildWarning.record, x.message ≠ "Duplicate documentation code" := by
  have hskips : ws.filterMap BuildWarning.conflict? = [] := by
    have hconflicts := h.conflicts
    rw [hnone] at hconflicts
    exact List.self_eq_append_right.1 hconflicts
  intro x hx
  obtain ⟨w, hw, rfl⟩ := List.mem_map.1 hx
  cases w with
  | skip p =>
      have hmessage : (BuildWarning.skip p).record.message = "Skipping documentation file" := rfl
      rw [hmessage]
      decide
  | clash c => cases List.filterMap_eq_nil_iff.1 hskips _ hw

/-- **Where a build is refused**, a build in which first declarations count has logged the same so
far, and warns of its first conflict next. -/
theorem exists_clash_of_refused {directory : Path} {files : Nat} {halted : HaltedBuild}
    (hrefused : follow .refuse (start directory files) es = .error halted) :
    (∀ x ∈ halted.log, x.message ≠ "Duplicate documentation code") ∧
      ∃ c after t, follow .firstWins (start directory files) es = .ok t ∧
        t.log = halted.log ++ (BuildWarning.clash c).record :: after := by
  rcases undisputed_or_disputed (start directory files) es with
    ⟨t, ht⟩ | ⟨before, d, rest, t, owner, rfl, ht, owned⟩
  · rw [ht.run] at hrefused
    cases hrefused
  · -- Both builds come to `t`, where the one is halted and the other one warns and goes on.
    rw [follow_append_of_ok (ht.run _), follow_refuse_of_disputed owned] at hrefused
    cases hrefused
    constructor
    · obtain ⟨ws, hws⟩ := exists_reports (ht.run .refuse)
      rw [hws.log]
      intro x hx
      rcases List.mem_append.1 hx with hstart | hwarning
      · have hmessage : (BuildLog.scanning directory files).message =
            "Scanning documentation directory" := rfl
        rw [List.mem_singleton.1 hstart, hmessage]
        decide
      · exact hws.message_ne ht.conflicts x hwarning
    · let c : CodeConflict := ⟨d.code, owner, d.source⟩
      obtain ⟨u, hu⟩ : ∃ u, follow .firstWins (t.clash c) rest = .ok u :=
        exists_follow (by nofun) _ _
      obtain ⟨ws, hws⟩ := exists_reports hu
      refine ⟨c, ws.map BuildWarning.record, u, ?_, ?_⟩
      · rw [follow_append_of_ok (ht.run _),
          follow_cons_of_ok (step_eq_ok_iff.2 (.keep d owner owned rfl))]
        exact hu
      · rw [hws.log, clash, BuildLog.duplicate_eq, List.append_assoc]
        rfl

end BuildState

/-! ## The order of the pages -/

namespace ReadPage

variable {h : Host} {p : Path} {paths : List Path} {read : ReadPage} {pages : List ReadPage}

theorem path_of_ofPath (hread : ofPath h p = .ok read) : read.path = p := by
  rcases ofPath_cases h p with ⟨page, -, hok⟩ | ⟨e, cause, -, -, hok⟩ | ⟨b, -, herror⟩
  · cases hok.symm.trans hread
    rfl
  · cases hok.symm.trans hread
    rfl
  · cases herror.symm.trans hread

/-- The pages that have been read are the selected ones, in order. -/
theorem map_path_of_ofPaths (hpages : ofPaths h paths = .ok pages) :
    pages.map (·.path) = paths := by
  induction paths generalizing pages with
  | nil =>
      cases hpages
      rfl
  | cons p paths ih =>
      obtain ⟨read, rest, hread, hrest, rfl⟩ := ofPaths_cons_eq_ok hpages
      rw [List.map_cons, path_of_ofPath hread, ih hrest]

/-- All events of a page are about this page. -/
theorem page_of_mem_events {e : MergeEvent} (he : e ∈ read.events) : e.page = read.path := by
  unfold events at he
  split at he
  · rw [List.mem_singleton.1 he]
    rfl
  next page _ =>
    obtain ⟨d, hd, rfl⟩ := List.mem_map.1 he
    obtain ⟨code, -, rfl⟩ := List.mem_map.1 hd
    rfl

/-- **The events of a build are in the order of the pages.** -/
theorem events_inOrder (hpages : ofPaths h paths = .ok pages)
    (hsorted : paths.Pairwise fun p q => p.name < q.name) :
    ((pages.flatMap events).map MergeEvent.page).Pairwise fun p q => p = q ∨ p.name < q.name := by
  rw [← map_path_of_ofPaths hpages, List.pairwise_map] at hsorted
  apply List.pairwise_map.2
  apply List.pairwise_flatMap.2
  constructor
  · intro read _
    apply List.pairwise_of_forall_mem_list
    intro e he e' he'
    exact .inl ((page_of_mem_events he).trans (page_of_mem_events he').symm)
  · apply hsorted.imp
    intro read read' hlt e he e' he'
    rw [page_of_mem_events he, page_of_mem_events he']
    exact .inr hlt

theorem page_mem_of_events (hpages : ofPaths h paths = .ok pages) {e : MergeEvent}
    (he : e ∈ pages.flatMap events) : e.page ∈ paths := by
  obtain ⟨read, hread, he⟩ := List.mem_flatMap.1 he
  rw [page_of_mem_events he, ← map_path_of_ofPaths hpages]
  exact List.mem_map_of_mem hread

end ReadPage

/-! ## The log of a build -/

/-- A log is the account of a build that gives a registry, with some warnings: the number of
selected pages, the warnings in the order of the pages, and the totals. The warnings of skipped
pages are the failures of the registry, and those of conflicts its conflicts. -/
structure BuildLog.AccountsFor (policy : DuplicatePolicy) (directory : Path) (paths : List Path)
    (r : Registry) (ws : List BuildWarning) (log : List LogRecord) : Prop where
  records : log =
    told .debug "Scanning documentation directory"
      [("directory", .text directory.text), ("files", .int paths.length)] ::
    (ws.map BuildWarning.record ++
      [told .info "Documentation registry built"
        [("directory", .text directory.text), ("codes", .int r.size),
          ("failures", .int r.failures.length), ("conflicts", .int r.conflicts.length)]])
  failures : r.failures = ws.filterMap BuildWarning.skipped?
  conflicts : r.conflicts = ws.filterMap BuildWarning.conflict?
  selected : ∀ w ∈ ws, w.page policy ∈ paths
  inOrder : (ws.map (BuildWarning.page policy)).Pairwise fun p q => p = q ∨ p.name < q.name

namespace RegistryBuild

variable {h : Host} {directory : Path} {extension : String} {policy : DuplicatePolicy}
  {r : Registry}

theorem ofPages_log_of_ok {pages : List ReadPage} {s : BuildState}
    (hrun : BuildState.follow policy (.start directory pages.length)
      (pages.flatMap ReadPage.events) = .ok s) :
    (ofPages policy directory pages).log = s.log ++ [BuildLog.built s.registry] := by
  unfold ofPages
  rw [BuildState.mergeAll_eq_follow, hrun]

theorem ofPages_log_of_error {pages : List ReadPage} {halted : HaltedBuild}
    (hrun : BuildState.follow policy (.start directory pages.length)
      (pages.flatMap ReadPage.events) = .error halted) :
    (ofPages policy directory pages).log = halted.log := by
  unfold ofPages
  rw [BuildState.mergeAll_eq_follow, hrun]

/-- A build that returns accounts for its registry. -/
theorem exists_accountsFor (hr : (run h directory extension policy).outcome = .ok r) :
    ∃ paths ws, Selection.pages h directory (Selection.pointed extension) = .ok paths ∧
      BuildLog.AccountsFor policy directory paths r ws
        (run h directory extension policy).log := by
  obtain ⟨paths, pages, hselect, hread, hmerge⟩ := run_outcome_eq_ok hr
  obtain ⟨s, hfollow, rfl⟩ := ofPages_outcome_eq_ok_iff.1 hmerge
  obtain ⟨ws, hws⟩ := BuildState.exists_reports hfollow
  have hsorted := Selection.pages_sorted hselect
  have hlength : pages.length = paths.length := by
    rw [← ReadPage.map_path_of_ofPaths hread, List.length_map]
  refine ⟨paths, ws, hselect, ?_, hws.failures, hws.conflicts, ?_, ?_⟩
  · -- What merging tells stands between the first record and the totals.
    rw [run_of_pages hselect hread, ofPages_log_of_ok hfollow, hws.log, BuildLog.built_eq,
      hws.directory, BuildState.start, hlength, BuildLog.scanning_eq, List.append_assoc]
    rfl
  · intro w hw
    have hpage := hws.pages.subset (List.mem_map_of_mem hw)
    obtain ⟨e, he, hpage⟩ := List.mem_map.1 hpage
    rw [← hpage]
    exact ReadPage.page_mem_of_events hread he
  · exact (ReadPage.events_inOrder hread hsorted).sublist hws.pages

/-- **The log of a refused build** is what is logged in front of the first conflict if first
declarations count. -/
theorem log_of_refused {f : Failure} {place : Option String} {code : String} {sources : List String}
    (hf : (run h directory extension .refuse).outcome = .error (.failure f))
    (hsubject : f.subject = .duplicate place code sources) :
    (∃ r, (run h directory extension .firstWins).outcome = .ok r) ∧
      (∀ x ∈ (run h directory extension .refuse).log,
        x.message ≠ "Duplicate documentation code") ∧
      ∃ c after, (run h directory extension .firstWins).log =
        (run h directory extension .refuse).log ++ (BuildWarning.clash c).record :: after := by
  obtain ⟨paths, pages, halted, hselect, hread, hrun, -⟩ := exists_halted_of_refused hf hsubject
  obtain ⟨hmessages, c, after, s, hfirst, hlog⟩ := BuildState.exists_clash_of_refused hrun
  -- Both builds select and read the same pages, and only merging them differs.
  rw [run_of_pages hselect hread, run_of_pages hselect hread, ofPages_log_of_error hrun,
    ofPages_log_of_ok hfirst, hlog, List.append_assoc]
  exact ⟨⟨s.registry, ofPages_outcome_eq_ok_iff.2 ⟨s, hfirst, rfl⟩⟩, hmessages, c, _, rfl⟩

/-- **The log of a build is a faithful account.** A build that returns logs the number of selected
pages, then warnings only, and then the totals of its registry. The warnings of skipped pages are
the failures of the registry and those of conflicts are its conflicts, in order and one for one, and
the two kinds are mixed in the order of the pages. Each warning tells the stage and an error code in
upper case. A build that is refused for a duplicate logs what is in front of the first warning of a
duplicate in the build in which first declarations count. -/
theorem log_accounts (h : Host) (directory : Path) (extension : String) :
    (∀ policy r, (run h directory extension policy).outcome = .ok r →
      ∃ paths ws, Selection.pages h directory (Selection.pointed extension) = .ok paths ∧
        BuildLog.AccountsFor policy directory paths r ws (run h directory extension policy).log) ∧
    (∀ w : BuildWarning, w.record.level = .warning ∧
      w.record.fields.get? "stage" = some (.text "registry") ∧
      ∃ code, w.record.fields.get? "error_code" = some (.text code) ∧ code ≠ "" ∧
        Text.LetterCase.upperString code = code) ∧
    ∀ f place code sources, (run h directory extension .refuse).outcome = .error (.failure f) →
      f.subject = .duplicate place code sources →
      (∃ r, (run h directory extension .firstWins).outcome = .ok r) ∧
        (∀ x ∈ (run h directory extension .refuse).log,
          x.message ≠ "Duplicate documentation code") ∧
        ∃ c after, (run h directory extension .firstWins).log =
          (run h directory extension .refuse).log ++ (BuildWarning.clash c).record :: after := by
  refine ⟨fun policy r hr => exists_accountsFor hr, fun w => ?_, fun f place code sources => ?_⟩
  · obtain ⟨hlevel, hstage, hcode⟩ := w.told_by_record
    exact ⟨hlevel, hstage, w.errorCode, hcode, w.upper_errorCode⟩
  · exact log_of_refused

/-- The account of three pages that share codes and of a fourth one that is skipped, and what the
refusal of the first duplicate logs. -/
theorem log_accounts_shelf :
    (∃ r ws, (run Shelf.host Shelf.docs "md" .lastWins).outcome = .ok r ∧
      BuildLog.AccountsFor .lastWins Shelf.docs Shelf.files r ws
        (run Shelf.host Shelf.docs "md" .lastWins).log) ∧
    ∃ c after, (run Shelf.host Shelf.docs "md" .firstWins).log =
      (run Shelf.host Shelf.docs "md" .refuse).log ++ (BuildWarning.clash c).record :: after := by
  obtain ⟨haccounts, -, hrefused⟩ := log_accounts Shelf.host Shelf.docs "md"
  constructor
  · obtain ⟨r, hr⟩ : ∃ r, (run Shelf.host Shelf.docs "md" .lastWins).outcome = .ok r :=
      exists_run nofun Shelf.select Shelf.readable
    obtain ⟨paths, ws, hselect, hws⟩ := haccounts .lastWins r hr
    cases Shelf.select.symm.trans hselect
    exact ⟨r, ws, hr, hws⟩
  · exact (hrefused _ _ _ _ Shelf.outcome_refuse rfl).2.2

end RegistryBuild

end OpcodeAtlas
