import TypedSheets.Proofs.Diagnostics.Agreement
import TypedSheets.Proofs.Materialization.Versions
import TypedSheets.Proofs.Pipeline.Effects
import TypedSheets.Proofs.Pipeline.Run

/-!
# Reports of conversions

Every problem of a sheet or of a join is of one named condition, so in the report of every
output the conditions, the issues and the summary agree, whatever was converted before. The
problems of the sheet come first, as they were found, and those of the join follow.
-/

namespace TypedSheets

/-- The report of a sheet is made of named conditions. -/
theorem Materialization.sound_run (registry : Registry) (view : View) (schema : Schema)
    (recordType : RecordType) (setting : Setting) :
    (run registry view schema recordType setting).report.Sound := by
  have named : ∀ flag ∈ [Flags.versionMismatch, Flags.noKeySkip, Flags.emptyCell,
      Flags.convertFailed], flag ∈ Flags.named.map Prod.fst := by decide
  constructor
  · simp only [run, Report.issues_ofIssues]
  · intro issue member
    exact named issue.flag (flag_of_mem_run member)

/-- The report of a join is made of named conditions. -/
theorem Join.sound_run (join : JoinSetting) (localType : RecordType) (records : List Record)
    (target : Table) : (run join localType records target).1.report.Sound := by
  have named : ∀ flag ∈ [Flags.versionMismatch, Flags.joinNoFindMethod, Flags.joinNoReferenceRow,
      Flags.joinIndexMismatch], flag ∈ Flags.named.map Prod.fst := by decide
  simp only [List.forall_mem_cons] at named
  rcases named with ⟨versionMismatch, noFindMethod, noReferenceRow, indexMismatch, -⟩
  simp only [run]
  split
  · apply Report.sound_ofIssues
    intro issue member
    obtain rfl := List.mem_singleton.mp member
    exact versionMismatch
  · split
    · apply Report.sound_ofIssues
      intro issue member
      rcases List.mem_map.mp member with ⟨record, _, rfl⟩
      exact noFindMethod
    · apply Report.sound_ofIssues
      intro issue member
      rcases List.mem_append.mp member with ofRecord | ofRun
      · rcases List.mem_map.mp ofRecord with ⟨record, _, rfl⟩
        exact noReferenceRow
      · split at ofRun
        · cases ofRun
        · obtain rfl := List.mem_singleton.mp ofRun
          exact indexMismatch

namespace Pipeline

/-! ## One conversion -/

/-- What the report of an output says. -/
structure Reports (before : Pipeline) (setting : Setting) (view : View)
    (output : ConversionOutput) : Prop where
  agrees : output.report.Agrees
  enumeration : setting.output = .enum → output.report.issues = []
  /-- Without a join, the issues are those of the sheet. -/
  unjoined : setting.output ≠ .enum → setting.join = none →
    output.join = none ∧ output.report.issues = (before.resultOf setting view).report.issues
  /-- Those of a join follow them. -/
  joined : setting.output ≠ .enum → ∀ join target, setting.join = some join →
    before.catalog.get? join.targetTable = some target →
      ∃ outcome, output.join = some outcome ∧ outcome.report.Agrees
        ∧ outcome = (Join.run join (before.recordTypeOf setting view) output.records target).1
        ∧ output.report.issues
          = (before.resultOf setting view).report.issues ++ outcome.report.issues
  /-- So does the one issue of a join that has no target. -/
  missing : setting.output ≠ .enum → ∀ join, setting.join = some join →
    before.catalog.get? join.targetTable = none →
      output.join = none
        ∧ output.report.issues
          = (before.resultOf setting view).report.issues ++ [missingIssue join]

theorem sound_joinedOf (before : Pipeline) (setting : Setting) (view : View) :
    (before.joinedOf setting view).report.Sound := by
  simp only [joinedOf, joinStep]
  split
  · next join joins =>
      simp only [joinInto]
      split
      · exact Join.sound_run _ _ _ _
      · apply Report.sound_ofIssues
        intro issue member
        obtain rfl := List.mem_singleton.mp member
        have named : Flags.joinNoReferenceRow ∈ Flags.named.map Prod.fst := by decide
        exact named
  · exact Report.sound_empty

/-- The issues of an output are those of its sheet and then those of its join. -/
theorem issues_recordsOutput (before : Pipeline) (setting : Setting) (view : View) :
    (before.recordsOutput setting view).report.issues
      = (before.resultOf setting view).report.issues
        ++ (before.joinedOf setting view).report.issues := rfl

/-- A conversion that succeeds reports what it found. -/
theorem reports_of_ends {before after : Pipeline} {setting : Setting} {view : View}
    {output : ConversionOutput} (ends : Ends before setting view (.ok output, after)) :
    Reports before setting view output := by
  cases ends with
  | enumeration isEnum =>
      constructor
      case agrees => exact Report.sound_empty.agrees
      case enumeration => exact fun _ => rfl
      all_goals exact fun notEnum => absurd isEnum notEnum
  | converted notEnum headed table made =>
      have sheet : (before.resultOf setting view).report.Sound := Materialization.sound_run _ _ _ _ _
      have join := before.sound_joinedOf setting view
      constructor
      case agrees => exact ((Report.sound_empty.merge sheet).merge join).agrees
      case enumeration => exact fun isEnum => absurd isEnum notEnum
      case unjoined =>
        intro _ none
        rw [issues_recordsOutput]
        simp only [recordsOutput, joinedOf, joinStep, none]
        exact ⟨trivial, List.append_nil _⟩
      case joined =>
        intro _ join target joins present
        rw [issues_recordsOutput]
        simp only [recordsOutput, joinedOf, joinStep, joinInto, joins, present]
        exact ⟨_, rfl, (Join.sound_run _ _ _ _).agrees, rfl, rfl⟩
      case missing =>
        intro _ join joins absent
        rw [issues_recordsOutput]
        simp only [recordsOutput, joinedOf, joinStep, joinInto, joins, absent]
        exact ⟨trivial, rfl⟩

/-! ## Sequences of conversions -/

/-- A call that converts sheets: one at hand, that of a setting, or those of all settings. -/
inductive Conversion where
  | sheet (setting : Setting) (view : View)
  | source (files : Files) (setting : Setting)
  | all (files : Files)

namespace Conversion

/-- The outputs that a call answers with and the pipeline after it. -/
def answer (pipeline : Pipeline) :
    Conversion → Except PipelineError (List ConversionOutput) × Pipeline
  | .sheet setting view =>
      let (outcome, after) := pipeline.convertGrid setting view
      (outcome.map ([·]), after)
  | .source files setting =>
      let (outcome, after) := pipeline.convertSetting files setting
      (outcome.map ([·]), after)
  | .all files => pipeline.convertAll files

/-- The outputs of calls, each made in the state that the one before it left. A call that
fails has none. -/
def outputs (pipeline : Pipeline) : List Conversion → List ConversionOutput
  | [] => []
  | conversion :: conversions =>
      let (answered, after) := conversion.answer pipeline
      answered.toOption.getD [] ++ outputs after conversions

end Conversion

/-- Whether an output is what some conversion answered, whose report it has. -/
def Reported (output : ConversionOutput) : Prop :=
  ∃ before setting view after, before.convertGrid setting view = (.ok output, after)
    ∧ Reports before setting view output

theorem reported_of_convertGrid {before after : Pipeline} {setting : Setting} {view : View}
    {output : ConversionOutput} (converted : before.convertGrid setting view = (.ok output, after)) :
    Reported output := by
  have ends := convertGrid_ends before setting view
  rw [converted] at ends
  exact ⟨before, setting, view, after, converted, reports_of_ends ends⟩

theorem reported_of_convertSetting {before after : Pipeline} {files : Files} {setting : Setting}
    {output : ConversionOutput}
    (converted : before.convertSetting files setting = (.ok output, after)) : Reported output := by
  rw [convertSetting] at converted
  split at converted
  · exact reported_of_convertGrid converted
  · cases converted

theorem reported_of_convertSettings {pipeline final : Pipeline} {files : Files}
    {settings : List Setting} {outputs : List ConversionOutput}
    (ran : pipeline.convertSettings files settings = (.ok outputs, final)) :
    ∀ output ∈ outputs, Reported output := by
  induction settings generalizing pipeline outputs with
  | nil =>
      cases ran
      exact List.forall_mem_nil _
  | cons setting settings ih =>
      rcases convertSettings_cons_ok ran with ⟨first, between, others, converted, rest, rfl⟩
      exact List.forall_mem_cons.mpr ⟨reported_of_convertSetting converted, ih rest⟩

/-- The outputs of a call have the reports of their conversions. -/
theorem reported_of_answer {pipeline after : Pipeline} {conversion : Conversion}
    {outputs : List ConversionOutput} (answered : conversion.answer pipeline = (.ok outputs, after)) :
    ∀ output ∈ outputs, Reported output := by
  cases conversion with
  | sheet setting view =>
      rcases converted : pipeline.convertGrid setting view with ⟨outcome, between⟩
      simp only [Conversion.answer, converted] at answered
      cases outcome with
      | error error => cases answered
      | ok output =>
          cases answered
          exact List.forall_mem_singleton.mpr (reported_of_convertGrid converted)
  | source files setting =>
      rcases converted : pipeline.convertSetting files setting with ⟨outcome, between⟩
      simp only [Conversion.answer, converted] at answered
      cases outcome with
      | error error => cases answered
      | ok output =>
          cases answered
          exact List.forall_mem_singleton.mpr (reported_of_convertSetting converted)
  | all files =>
      rw [Conversion.answer, convertAll] at answered
      exact reported_of_convertSettings answered

/-- Whatever was converted before, the conditions, the issues and the summary in the report of
an output agree, and the issues of its sheet come first, followed by those of its join. -/
theorem outputs_reported (pipeline : Pipeline) (conversions : List Conversion) :
    ∀ output ∈ Conversion.outputs pipeline conversions, Reported output := by
  induction conversions generalizing pipeline with
  | nil => exact List.forall_mem_nil _
  | cons conversion conversions ih =>
      rcases answer : conversion.answer pipeline with ⟨answered, after⟩
      simp only [Conversion.outputs, answer]
      refine List.forall_mem_append.mpr ⟨?_, ih after⟩
      cases answered with
      | error error => exact List.forall_mem_nil _
      | ok outputs => exact reported_of_answer answer

/-- A drop of no item, without its chance. -/
def strayDrop : View := (Grid.ofRows [["item_id", "chance"], ["int", "int"], ["9", ""]]).view

/-- A conversion that fails, and one whose sheet and join both have problems. -/
def strayConversions : List Conversion := [
  .source Files.empty sampleDropList,
  .sheet sampleDropList strayDrop]

theorem strayDrop_reported :
    ∃ output ∈ Conversion.outputs sampleStart strayConversions,
      output.report.issues.map Issue.flag
          = [Flags.emptyCell, Flags.joinNoReferenceRow, Flags.joinIndexMismatch]
        ∧ output.report.flags.bits = 26 ∧ Reported output := by
  have told : (Conversion.outputs sampleStart strayConversions).map (fun output =>
      (output.report.issues.map Issue.flag, output.report.flags.bits))
        = [([Flags.emptyCell, Flags.joinNoReferenceRow, Flags.joinIndexMismatch], 26)] := by
    decide +kernel
  rcases List.map_eq_singleton_iff.mp told with ⟨output, made, tells⟩
  have member : output ∈ Conversion.outputs sampleStart strayConversions := by
    rw [made]
    exact List.mem_singleton_self output
  exact ⟨output, member, congrArg Prod.fst tells, congrArg Prod.snd tells,
    outputs_reported sampleStart strayConversions output member⟩

end Pipeline

end TypedSheets
