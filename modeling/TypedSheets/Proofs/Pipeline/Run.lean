import Mathlib.Data.List.Nodup
import TypedSheets.Proofs.Pipeline.Step

/-!
# Runs over several settings

Settings are converted one after the other, each in the state that the one before it left.
A run that fails nowhere is one conversion and a run over the rest, and it splits anywhere
into two runs.
-/

namespace TypedSheets.Pipeline

variable {pipeline final : Pipeline} {files : Files} {outputs : List ConversionOutput}

/-- A conversion that succeeds does so on the sheet of its setting. -/
theorem exists_sheet_of_convertSetting {setting : Setting} {output : ConversionOutput}
    {after : Pipeline}
    (converted : pipeline.convertSetting files setting = (.ok output, after)) :
    ∃ view, sheetOf files setting = .ok view ∧ Ends pipeline setting view (.ok output, after) := by
  rw [convertSetting] at converted
  split at converted
  · next view read =>
      have ends := convertGrid_ends pipeline setting view
      rw [converted] at ends
      exact ⟨view, read, ends⟩
  · cases converted

theorem ends_of_convertSetting {setting : Setting} {output : ConversionOutput} {after : Pipeline}
    (converted : pipeline.convertSetting files setting = (.ok output, after)) :
    ∃ view, Ends pipeline setting view (.ok output, after) := by
  rcases exists_sheet_of_convertSetting converted with ⟨view, _, ends⟩
  exact ⟨view, ends⟩

theorem convertSettings_cons_ok {setting : Setting} {settings : List Setting}
    (ran : pipeline.convertSettings files (setting :: settings) = (.ok outputs, final)) :
    ∃ output between others, pipeline.convertSetting files setting = (.ok output, between)
      ∧ between.convertSettings files settings = (.ok others, final)
      ∧ outputs = output :: others := by
  rw [convertSettings] at ran
  split at ran
  · cases ran
  · next output between made =>
      split at ran
      · cases ran
      · next others _ rest =>
          cases ran
          exact ⟨output, between, others, made, rest, rfl⟩

theorem convertSettings_cons_of_ok {setting : Setting} {settings : List Setting}
    {output : ConversionOutput} {between : Pipeline}
    (first : pipeline.convertSetting files setting = (.ok output, between))
    (rest : between.convertSettings files settings = (.ok outputs, final)) :
    pipeline.convertSettings files (setting :: settings) = (.ok (output :: outputs), final) := by
  rw [convertSettings, first]
  simp only [rest]

theorem convertSettings_append_ok {earlier later : List Setting}
    (ran : pipeline.convertSettings files (earlier ++ later) = (.ok outputs, final)) :
    ∃ made between others, pipeline.convertSettings files earlier = (.ok made, between)
      ∧ between.convertSettings files later = (.ok others, final)
      ∧ outputs = made ++ others := by
  induction earlier generalizing pipeline outputs with
  | nil => exact ⟨[], pipeline, outputs, rfl, ran, rfl⟩
  | cons setting earlier ih =>
      rcases convertSettings_cons_ok ran with ⟨output, next, _, first, rest, rfl⟩
      rcases ih rest with ⟨made, between, others, front, back, rfl⟩
      exact ⟨output :: made, between, others, convertSettings_cons_of_ok first front, back, rfl⟩

theorem convertSettings_append_of_ok {earlier later : List Setting} {between : Pipeline}
    {made others : List ConversionOutput}
    (front : pipeline.convertSettings files earlier = (.ok made, between))
    (back : between.convertSettings files later = (.ok others, final)) :
    pipeline.convertSettings files (earlier ++ later) = (.ok (made ++ others), final) := by
  induction earlier generalizing pipeline made with
  | nil =>
      cases front
      exact back
  | cons setting earlier ih =>
      rcases convertSettings_cons_ok front with ⟨output, next, _, first, rest, rfl⟩
      exact convertSettings_cons_of_ok first (ih rest)

/-- A run that succeeds comes to each of its settings. -/
theorem exists_turn {settings : List Setting} {setting : Setting}
    (ran : pipeline.convertSettings files settings = (.ok outputs, final))
    (member : setting ∈ settings) :
    ∃ front back made middle output between others, settings = front ++ setting :: back
      ∧ pipeline.convertSettings files front = (.ok made, middle)
      ∧ middle.convertSetting files setting = (.ok output, between)
      ∧ between.convertSettings files back = (.ok others, final)
      ∧ outputs = made ++ output :: others := by
  rcases List.append_of_mem member with ⟨front, back, rfl⟩
  rcases convertSettings_append_ok ran with ⟨made, middle, _, frontRan, backRan, rfl⟩
  rcases convertSettings_cons_ok backRan with ⟨output, between, others, converted, rest, rfl⟩
  exact ⟨front, back, made, middle, output, between, others, rfl, frontRan, converted, rest, rfl⟩

/-- Where no two settings are of one class, none of the later ones is of the class of an
earlier one. -/
theorem notMem_later {front back : List Setting} {setting : Setting}
    (distinct : ((front ++ setting :: back).map Setting.className).Nodup) :
    setting.className ∉ back.map Setting.className := by
  rw [List.map_append, List.map_cons] at distinct
  exact (List.nodup_cons.mp (List.nodup_append.mp distinct).2.1).1

theorem className_of_ends {before after : Pipeline} {setting : Setting} {view : View}
    {output : ConversionOutput} (ends : Ends before setting view (.ok output, after)) :
    output.className = setting.className := by
  cases ends <;> rfl

/-- The outputs of a run are of the classes of its settings, in their order. -/
theorem map_className_convertSettings {settings : List Setting}
    (ran : pipeline.convertSettings files settings = (.ok outputs, final)) :
    outputs.map ConversionOutput.className = settings.map Setting.className := by
  induction settings generalizing pipeline outputs with
  | nil =>
      cases ran
      rfl
  | cons setting settings ih =>
      rcases convertSettings_cons_ok ran with ⟨output, between, others, converted, rest, rfl⟩
      rcases ends_of_convertSetting converted with ⟨view, ends⟩
      rw [List.map_cons, List.map_cons, ih rest, className_of_ends ends]

/-- Whether an output is the one of a class among outputs. -/
structure OutputOf (outputs : List ConversionOutput) (className : String)
    (output : ConversionOutput) : Prop where
  member : output ∈ outputs
  named : output.className = className
  only : ∀ other ∈ outputs, other.className = className → other = output

theorem OutputOf.of_perm {others : List ConversionOutput} {className : String}
    {output : ConversionOutput} (own : OutputOf outputs className output)
    (perm : outputs.Perm others) : OutputOf others className output := by
  constructor
  · exact perm.mem_iff.mp own.member
  · exact own.named
  · intro other member
    exact own.only other (perm.mem_iff.mpr member)

/-- The output of a setting is the one of its class if no two settings are of one class. -/
theorem outputOf_of_mem {settings : List Setting} {output : ConversionOutput}
    (distinct : (settings.map Setting.className).Nodup)
    (ran : pipeline.convertSettings files settings = (.ok outputs, final))
    (member : output ∈ outputs) : OutputOf outputs output.className output := by
  constructor
  · exact member
  · rfl
  · intro other also same
    rw [← map_className_convertSettings ran] at distinct
    exact List.inj_on_of_nodup_map distinct also member same

/-- Every class of a run has its output. -/
theorem exists_outputOf {settings : List Setting} {setting : Setting}
    (distinct : (settings.map Setting.className).Nodup)
    (ran : pipeline.convertSettings files settings = (.ok outputs, final))
    (listed : setting ∈ settings) : ∃ output, OutputOf outputs setting.className output := by
  have classes := map_className_convertSettings ran
  have member : setting.className ∈ outputs.map ConversionOutput.className := by
    rw [classes]
    exact List.mem_map_of_mem listed
  rcases List.mem_map.mp member with ⟨output, made, named⟩
  exact ⟨output, named ▸ outputOf_of_mem distinct ran made⟩

/-- Every output of a run is what the conversion of some sheet ended in. -/
theorem exists_ends_of_mem {settings : List Setting}
    (converted : pipeline.convertSettings files settings = (.ok outputs, final)) :
    ∀ output ∈ outputs, ∃ before setting view after, Ends before setting view (.ok output, after) := by
  induction settings generalizing pipeline outputs with
  | nil =>
      cases converted
      intro output member
      cases member
  | cons setting settings ih =>
      rcases convertSettings_cons_ok converted with ⟨first, between, others, made, rest, rfl⟩
      intro output member
      rcases List.mem_cons.mp member with rfl | later
      · rcases ends_of_convertSetting made with ⟨view, ends⟩
        exact ⟨pipeline, setting, view, between, ends⟩
      · exact ih rest output later

end TypedSheets.Pipeline
