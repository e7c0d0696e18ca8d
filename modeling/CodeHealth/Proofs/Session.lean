import CodeHealth.Proofs.Project
import CodeHealth.Session

/-!
# What a session knows after any number of steps

A session finds things out in two ways: an analysis of the whole project replaces all results, and
measuring one file again replaces the functions of that file. Between such steps files may be
written and deleted at will.

* `Report` and `Session.reports` — what the steps of a session find out, in order;
* `Reflects` — how results follow from such a history: which report each part of them is taken from;
* `Session.step_cases` — all that a step can do to the results;
* `Session.reflects_step` and `Session.reflects_steps` — one step keeps that relation, and so does
  any sequence of steps;
* `Session.counts_steps` — the number of functions is counted right as long as it can be counted in
  64 bits;
* `Session.current_after_steps` — both together, for a session from its start.
-/

namespace CodeHealth

/-! ### Reports -/

/-- What one `Step` of a session finds out, if anything. -/
inductive Report where
  /-- An analysis of the whole project. -/
  | whole (r : Results)
  /-- New measures of the file with a label. -/
  | file (label : String) (r : Results)

namespace Report

/-- The results of a report, if it is an analysis of the whole project. -/
def whole? : Report → Option Results
  | whole r => some r
  | file _ _ => none

/-- The functions that a report holds for the file with a `label`, when it is about that file: a
whole analysis is about every file. -/
def functionsOf? (label : String) : Report → Option (List FunctionMeasure)
  | whole r => some (r.functions.filter fun f => f.file == label)
  | file other r =>
    if other = label then some (r.functions.filter fun f => f.file == label) else none

/-- The results of the last analysis of the whole project among the `reports`. -/
def lastWhole? (reports : List Report) : Option Results := (reports.filterMap whole?).getLast?

/-- The functions that the last of the `reports` about the file with a `label` holds for it. -/
def lastFunctionsOf (label : String) (reports : List Report) : List FunctionMeasure :=
  ((reports.filterMap (functionsOf? label)).getLast?).getD []

variable {reports : List Report} {label : String}

@[simp] theorem lastWhole?_append_whole (r : Results) :
    lastWhole? (reports ++ [whole r]) = some r := by
  simp [lastWhole?, whole?]

@[simp] theorem lastWhole?_append_file (other : String) (r : Results) :
    lastWhole? (reports ++ [file other r]) = lastWhole? reports := by
  simp [lastWhole?, whole?]

@[simp] theorem lastFunctionsOf_append_whole (r : Results) :
    lastFunctionsOf label (reports ++ [whole r]) = r.functions.filter fun f => f.file == label := by
  simp [lastFunctionsOf, functionsOf?]

@[simp] theorem lastFunctionsOf_append_same (r : Results) :
    lastFunctionsOf label (reports ++ [file label r])
      = r.functions.filter fun f => f.file == label := by
  simp [lastFunctionsOf, functionsOf?]

/-- After a file is measured again the functions of every `other` file are what they were. -/
theorem lastFunctionsOf_append_other {other : String} (h : other ≠ label) (r : Results) :
    lastFunctionsOf label (reports ++ [file other r]) = lastFunctionsOf label reports := by
  simp [lastFunctionsOf, functionsOf?, h]

end Report

namespace Session

/-- What a step finds out about the project of the session `s`. An analysis that fails finds nothing
out, and steps that only ask or that change the world around the session do not either. -/
def report? (s : Session) : Step → Option Report
  | .run | .rerun _ .full =>
    match s.project.run s.disk with
    | .ok r => some (.whole r)
    | .error _ => none
  | .rerun p .incremental => some (.file p.label (s.project.runSingle s.disk p))
  | .single _ | .relevant _ | .score | .write _ _ | .delete _ | .observe _ _ => none

/-- What some steps find out, in order, each in the session that the steps before lead to. -/
def reports (s : Session) : List Step → List Report
  | [] => []
  | first :: rest => (s.report? first).toList ++ (s.step first).2.reports rest

end Session

/-! ### Results and the reports behind them -/

namespace Results

/-- The results `r` and `last` agree in all that only an analysis of the whole project finds. -/
structure SameWhole (r last : Results) : Prop where
  /-- They are of the same language. -/
  language : r.language = last.language
  /-- They count the same number of files. -/
  fileCount : r.fileCount = last.fileCount
  /-- They have the same dependencies. -/
  dependencies : r.dependencies = last.dependencies
  /-- They have the same violations. -/
  violations : r.violations = last.violations
  /-- They have the same unused functions. -/
  unused : r.unused = last.unused

end Results

/-- The results `current` follow from some `reports`: what only a whole analysis finds is that of
the last one, or else nothing, and the functions of each file are those of the last report about it.
This is the invariant of a session. -/
structure Reflects (language : Language) (reports : List Report) (current : Results) : Prop where
  /-- The most complex functions come first. -/
  ranked : Ranked current.functions
  /-- Every function has a complexity of at least one. -/
  positive : ∀ f ∈ current.functions, 1 ≤ f.complexity
  /-- What only a whole analysis finds is that of the last one. -/
  whole : current.SameWhole ((Report.lastWhole? reports).getD (Results.empty language))
  /-- The functions of each file are those of the last report about it, in order. -/
  byFile : ∀ label, current.functions.filter (fun f => f.file == label)
    = Report.lastFunctionsOf label reports

namespace Reflects

variable {language : Language} {reports : List Report} {current : Results}

/-- An analysis `r` of the whole project leaves nothing of what was known before: the results are
those of the report alone. -/
theorem whole_report {r : Results} (h : r.Sound) :
    Reflects language (reports ++ [.whole r]) r where
  ranked := h.ranked
  positive := h.positive
  whole := by rw [Report.lastWhole?_append_whole]; exact ⟨rfl, rfl, rfl, rfl, rfl⟩
  byFile := fun label => by rw [Report.lastFunctionsOf_append_whole]

/-- Measuring a file `again` replaces what was known of the file and nothing else, if all functions
that were measured are of this file (`hlabel`). -/
theorem file_report (h : Reflects language reports current) {label : String} {again : Results}
    (hsound : again.Sound) (hlabel : ∀ f ∈ again.functions, f.file = label) :
    Reflects language (reports ++ [.file label again]) (current.replaceFile label again) where
  ranked := Results.ranked_sorted _
  positive := by
    intro f hf
    rw [Results.replaceFile_functions, Results.mem_ranked, List.mem_append] at hf
    rcases hf with hf | hf
    · exact h.positive f (List.mem_filter.mp hf).1
    · exact hsound.positive f hf
  whole := by
    rw [Report.lastWhole?_append_file]
    exact ⟨h.whole.language, h.whole.fileCount, h.whole.dependencies, h.whole.violations,
      h.whole.unused⟩
  byFile := by
    intro other
    by_cases hother : other = label
    · -- All that is measured again has the label, so the report holds nothing else.
      subst hother
      rw [Report.lastFunctionsOf_append_same,
        Results.filter_replaceFile_same hsound.ranked hlabel]
      exact (List.filter_eq_self.mpr fun f hf => beq_iff_eq.mpr (hlabel f hf)).symm
    · rw [Report.lastFunctionsOf_append_other (Ne.symm hother),
        Results.filter_replaceFile_other h.ranked hlabel hother]
      exact h.byFile other

end Reflects

/-! ### Steps -/

namespace Session

/-- An analysis `runFull` of the whole project that fails leaves the session as it is. -/
theorem runFull_of_error {s : Session} {fault : RunFault}
    (h : s.project.run s.disk = .error fault) : s.runFull.2 = s := by
  rw [runFull, h]

/-- `runFull` replaces the results or leaves them, and `report?` tells which: it leaves them when
the run has failed. -/
theorem runFull_cases (s : Session) :
    (∃ r, s.project.run s.disk = .ok r ∧ s.report? .run = some (.whole r) ∧
      s.runFull.2.current = r) ∨
    (s.report? .run = none ∧ s.runFull.2.current = s.current) := by
  cases hrun : s.project.run s.disk with
  | ok r => exact .inl ⟨r, rfl, by simp [report?, hrun], by simp [runFull, hrun]⟩
  | error fault => exact .inr ⟨by simp [report?, hrun], by rw [runFull_of_error hrun]⟩

/-- **What a step can do** to the results: replace them all, replace those of one file, or leave
them. `report?` tells which, and every lemma about steps goes by these cases. -/
theorem step_cases (s : Session) (first : Step) :
    (∃ r, s.project.run s.disk = .ok r ∧ s.report? first = some (.whole r) ∧
      (s.step first).2.current = r) ∨
    (∃ p, s.report? first = some (.file p.label (s.project.runSingle s.disk p)) ∧
      (s.step first).2.current
        = s.current.replaceFile p.label (s.project.runSingle s.disk p)) ∨
    (s.report? first = none ∧ (s.step first).2.current = s.current) := by
  cases first with
  | run => exact s.runFull_cases.imp_right .inr
  | rerun p mode =>
    cases mode with
    | full => exact s.runFull_cases.imp_right .inr
    | incremental => exact .inr (.inl ⟨p, rfl, rfl⟩)
  -- The other steps only ask, or change the disk, the time or the registry.
  | single p => exact .inr (.inr ⟨rfl, rfl⟩)
  | relevant p => exact .inr (.inr ⟨rfl, rfl⟩)
  | score => exact .inr (.inr ⟨rfl, rfl⟩)
  | write p e => exact .inr (.inr ⟨rfl, rfl⟩)
  | delete p => exact .inr (.inr ⟨rfl, rfl⟩)
  | observe registry now => exact .inr (.inr ⟨rfl, rfl⟩)

/-- **One step** keeps the results in line with the reports (`Reflects`), where the report of the
step, if it makes one, is put behind the others. -/
theorem reflects_step {language : Language} {reports : List Report} (s : Session) (first : Step)
    (h : Reflects language reports s.current) :
    Reflects language (reports ++ (s.report? first).toList) (s.step first).2.current := by
  obtain ⟨r, hrun, hreport, hcurrent⟩ | ⟨p, hreport, hcurrent⟩ | ⟨hreport, hcurrent⟩ :=
    s.step_cases first
  · rw [hreport, hcurrent]
    exact Reflects.whole_report (s.project.sound_run hrun)
  · rw [hreport, hcurrent]
    exact h.file_report s.project.sound_runSingle fun f hf => (s.project.mem_runSingle hf).1
  · rw [hreport, hcurrent, Option.toList_none, List.append_nil]
    exact h

/-- **Any number of steps** keeps the results in line with the reports (`Reflects`), by induction on
them. -/
theorem reflects_steps {language : Language} {reports : List Report} (s : Session)
    (all : List Step) (h : Reflects language reports s.current) :
    Reflects language (reports ++ s.reports all) (s.steps all).2.current := by
  induction all generalizing s reports with
  | nil => simpa [Session.reports, steps] using h
  | cons first rest ih =>
    have hrest := ih (s.step first).2 (s.reflects_step first h)
    rw [List.append_assoc] at hrest
    exact hrest

/-- One step keeps the number of functions right, if there is room for it (`Fits`). A step that
reports nothing leaves both the functions and the number. -/
theorem counts_step (s : Session) (first : Step)
    (h : s.current.functionCount = s.current.functions.length)
    (hfits : (s.step first).2.current.Fits) :
    (s.step first).2.current.functionCount = (s.step first).2.current.functions.length := by
  obtain ⟨r, hrun, _, hcurrent⟩ | ⟨p, _, hcurrent⟩ | ⟨_, hcurrent⟩ := s.step_cases first
  · rw [hcurrent]
    exact (s.project.sound_run hrun).counted
  · rw [hcurrent] at hfits ⊢
    -- A list in memory is always shorter than where the count would wrap.
    have hroom : twoTo 63 < twoTo 64 := by decide
    exact Results.functionCount_replaceFile h s.project.sound_runSingle.counted
      (Nat.lt_trans hfits hroom)
  · rw [hcurrent]
    exact h

/-- Any number of steps keeps the number of functions right, if there is room for it after each of
them (`hfits`). -/
theorem counts_steps (s : Session) (all : List Step)
    (h : s.current.functionCount = s.current.functions.length)
    (hfits : ∀ before, before <+: all → (s.steps before).2.current.Fits) :
    (s.steps all).2.current.functionCount = (s.steps all).2.current.functions.length := by
  induction all generalizing s with
  | nil => exact h
  | cons first rest ih =>
    have hfirst : (s.step first).2.current.Fits := hfits [first] (by simp)
    refine ih (s.step first).2 (s.counts_step first h hfirst) fun before hbefore => ?_
    exact hfits (first :: before) (List.cons_prefix_cons.mpr ⟨rfl, hbefore⟩)

/-- A session at its `start` knows nothing, and nothing was reported. So whatever steps follow,
their reports are all there is to reflect. -/
theorem reflects_start (project : Project) (disk : Disk) (weights : Aspects Float)
    (limits : Limits) :
    Reflects project.language [] (start project disk weights limits).current where
  ranked := (Results.sound_empty project.language).ranked
  positive := (Results.sound_empty project.language).positive
  whole := ⟨rfl, rfl, rfl, rfl, rfl⟩
  byFile := fun _ => rfl

/-- **What a session knows.** After any steps, files being written and deleted between them, as well
as time passing and registries changing:

* the number of functions is counted right, unless it ever exceeds what a list in memory can hold
  (`Fits`);
* functions are `Ranked`, and each has a complexity of at least one;
* language, number of files, dependencies, violations and unused functions are those of the last
  analysis of the whole project that succeeded (`lastWhole?`), and one that fails changes nothing;
* the functions of each file are, in order, those of the last report about it
  (`lastFunctionsOf`). -/
theorem current_after_steps (project : Project) (disk : Disk) (weights : Aspects Float)
    (limits : Limits) (all : List Step) :
    let first := start project disk weights limits
    let last := (first.steps all).2
    ((∀ before, before <+: all → (first.steps before).2.current.Fits) →
      last.current.functionCount = last.current.functions.length) ∧
    Ranked last.current.functions ∧
    (∀ f ∈ last.current.functions, 1 ≤ f.complexity) ∧
    last.current.SameWhole
      ((Report.lastWhole? (first.reports all)).getD (Results.empty project.language)) ∧
    (∀ fault, last.project.run last.disk = .error fault →
      (last.step .run).2.current = last.current ∧
      ∀ p, (last.step (.rerun p .full)).2.current = last.current) ∧
    ∀ label, last.current.functions.filter (fun f => f.file == label)
      = Report.lastFunctionsOf label (first.reports all) := by
  intro first last
  have hreflects : Reflects project.language ([] ++ first.reports all) last.current :=
    first.reflects_steps all (reflects_start project disk weights limits)
  rw [List.nil_append] at hreflects
  refine ⟨?_, hreflects.ranked, hreflects.positive, hreflects.whole, ?_, hreflects.byFile⟩
  · exact first.counts_steps all rfl
  · intro fault hfault
    have hsame : last.runFull.2.current = last.current := by rw [runFull_of_error hfault]
    exact ⟨hsame, fun _ => hsame⟩

end Session

namespace Sample

/-- A whole analysis of the small `project` and a new measure of one of its files keep the number of
functions right. -/
theorem counted_after_rerun :
    let first := Session.start project disk ⟨1, 1, 1, 1, 1⟩ Limits.default
    let last := (first.steps [.run, .rerun app .incremental]).2
    last.current.functionCount = last.current.functions.length := by
  have hprofile : project.language.profile? = some Outline.python := rfl
  have hrun : (project.analyze (.directory entries)).functions.length ≤ 1 := by
    rw [(project.analyze_functions_perm _).length_eq]
    exact Nat.le_trans (Language.length_measures_le hprofile _) (by decide +kernel)
  have hsingle : (project.runSingle disk app).functions.length ≤ 1 := by
    have hread : disk.read? app = some declaration := rfl
    rw [(project.runSingle_functions_perm (by decide)).length_eq, hread, Option.toList_some,
      List.flatMap_singleton]
    exact Nat.le_trans (Language.length_measures_le hprofile _) (by decide +kernel)
  have hboth := Results.length_replaceFile_le (project.analyze (.directory entries)) app.label
    (project.runSingle disk app)
  have hroom : 2 < twoTo 63 := by decide
  intro first last
  refine (Session.current_after_steps project disk ⟨1, 1, 1, 1, 1⟩ Limits.default
    [.run, .rerun app .incremental]).1 fun before hbefore => ?_
  -- There are three points in time: the start, after the run, and after the new measure.
  obtain rfl | ⟨rest, rfl, hrest⟩ := List.prefix_cons_iff.mp hbefore
  · show 0 < twoTo 63
    omega
  · obtain rfl | ⟨others, rfl, hothers⟩ := List.prefix_cons_iff.mp hrest
    · show (project.analyze (.directory entries)).functions.length < twoTo 63
      omega
    · obtain rfl := List.prefix_nil.mp hothers
      show ((project.analyze (.directory entries)).replaceFile app.label
        (project.runSingle disk app)).functions.length < twoTo 63
      omega

end Sample

end CodeHealth
