import Mathlib.Data.List.Nodup
import TypedSheets.Settings.Basic

/-!
# The order of settings

Settings run in three groups, enumerations before sheets that are not joined before joins,
and within a group they run as they are configured. So before a join runs every sheet that
is not joined, and of the joins those that are configured before it.
-/

namespace TypedSheets

/-- In a list without repetitions an element stands before another one exactly when it is
among those before it. -/
theorem mem_left_iff_sublist {α : Type} {earlier later : List α} {first second : α}
    (distinct : (earlier ++ second :: later).Nodup) (different : first ≠ second) :
    first ∈ earlier ↔ [first, second].Sublist (earlier ++ second :: later) := by
  constructor
  · intro member
    have front : [first].Sublist earlier := List.singleton_sublist.mpr member
    have back : [second].Sublist (second :: later) :=
      List.singleton_sublist.mpr List.mem_cons_self
    exact front.append back
  · intro ordered
    rcases List.sublist_append_iff.mp ordered with ⟨front, back, split, inFront, inBack⟩
    cases front with
    | cons head front =>
        obtain ⟨rfl, _⟩ := List.cons.inj split
        exact inFront.subset List.mem_cons_self
    | nil =>
        -- Both would have to stand after the second one, which occurs once.
        rw [List.nil_append] at split
        rw [← split] at inBack
        have once := (List.nodup_cons.mp (List.nodup_append.mp distinct).2.1).1
        cases inBack with
        | cons _ after => exact absurd (after.subset (by simp)) once
        | cons_cons _ _ => exact absurd rfl different

namespace Config

/-- Whether no two settings are of one class. -/
def DistinctClasses (config : Config) : Prop :=
  (config.settings.map Setting.className).Nodup

instance (config : Config) : Decidable config.DistinctClasses :=
  inferInstanceAs (Decidable (config.settings.map Setting.className).Nodup)

/-- Whether a setting is configured before another one. -/
def Precedes (config : Config) (first second : Setting) : Prop :=
  [first, second].Sublist config.settings

/-- Every setting runs once. -/
theorem ordered_perm (config : Config) : config.ordered.Perm config.settings := by
  have groups := List.filter_append_perm (fun setting : Setting => setting.output == .enum)
    config.settings
  have rest := List.filter_append_perm (fun setting : Setting => !setting.isJoin)
    (config.settings.filter fun setting => !(setting.output == .enum))
  simp only [List.filter_filter, Bool.not_not] at rest
  refine List.Perm.trans ?_ groups
  rw [ordered, List.append_assoc]
  apply List.Perm.append_left
  refine List.Perm.trans ?_ rest
  simp only [Bool.and_comm, List.Perm.refl]

theorem mem_ordered_iff {config : Config} {setting : Setting} :
    setting ∈ config.ordered ↔ setting ∈ config.settings :=
  config.ordered_perm.mem_iff

theorem DistinctClasses.ordered {config : Config} (distinct : config.DistinctClasses) :
    (config.ordered.map Setting.className).Nodup :=
  (config.ordered_perm.map Setting.className).nodup_iff.mpr distinct

/-- Settings of one class are the same setting. -/
theorem DistinctClasses.eq_of_className {config : Config} (distinct : config.DistinctClasses)
    {first second : Setting} (firstListed : first ∈ config.settings)
    (secondListed : second ∈ config.settings) (same : first.className = second.className) :
    first = second :=
  List.inj_on_of_nodup_map distinct firstListed secondListed same

/-- Before a join run the sheets that are not joined, and the joins configured before it. -/
theorem mem_earlier_iff {config : Config} (distinct : config.DistinctClasses)
    {first joining : Setting} {earlier later : List Setting}
    (order : config.ordered = earlier ++ joining :: later) (listed : first ∈ config.settings)
    (notEnum : first.output ≠ .enum) (alsoNotEnum : joining.output ≠ .enum)
    (joins : joining.isJoin = true) (different : first ≠ joining) :
    first ∈ earlier ↔ first.isJoin = false ∨ config.Precedes first joining := by
  have once : (earlier ++ joining :: later).Nodup := by
    rw [← order]
    exact List.Nodup.of_map Setting.className distinct.ordered
  have present : joining ∈ config.settings := by
    rw [← mem_ordered_iff, order]
    simp
  rw [mem_left_iff_sublist once different, ← order, ordered]
  have lastGroup : joining ∈ config.settings.filter fun setting =>
      !(setting.output == .enum) && setting.isJoin := by
    simp [present, alsoNotEnum, joins]
  cases joined : first.isJoin with
  | false =>
      have middle : first ∈ config.settings.filter fun setting =>
          !(setting.output == .enum) && !setting.isJoin := by
        simp [listed, notEnum, joined]
      have front : [first].Sublist (config.settings.filter (fun setting => setting.output == .enum)
          ++ config.settings.filter fun setting => !(setting.output == .enum) && !setting.isJoin) :=
        List.singleton_sublist.mpr (List.mem_append_right _ middle)
      have before := front.append (List.singleton_sublist.mpr lastGroup)
      exact iff_of_true before (.inl rfl)
  | true =>
      simp only [Bool.true_eq_false, false_or]
      constructor
      · intro ordered
        rcases List.sublist_append_iff.mp ordered with ⟨front, back, split, inFront, inBack⟩
        cases front with
        | nil =>
            rw [List.nil_append] at split
            rw [← split] at inBack
            exact inBack.trans List.filter_sublist
        | cons head front =>
            obtain ⟨rfl, _⟩ := List.cons.inj split
            have outside := inFront.subset List.mem_cons_self
            simp [notEnum, joined] at outside
      · intro precedes
        have kept := precedes.filter fun setting : Setting =>
          !(setting.output == .enum) && setting.isJoin
        have both : [first, joining].filter (fun setting : Setting =>
            !(setting.output == .enum) && setting.isJoin) = [first, joining] := by
          simp [notEnum, alsoNotEnum, joined, joins]
        rw [both] at kept
        exact kept.trans (List.sublist_append_right _ _)

/-! ## Rearranged settings -/

/-- Whether two configurations differ in the order of their settings only, with the
enumerations among themselves in one order and the joins among themselves in one order. -/
structure Rearranged (config other : Config) : Prop where
  rest : other = { config with settings := other.settings }
  settings : config.settings.Perm other.settings
  enums : config.settings.filter (fun setting => setting.output == .enum)
    = other.settings.filter fun setting => setting.output == .enum
  joins : config.settings.filter (·.isJoin) = other.settings.filter (·.isJoin)

instance (config other : Config) : Decidable (config.Rearranged other) :=
  decidable_of_iff
    (other = { config with settings := other.settings }
      ∧ config.settings.Perm other.settings
      ∧ config.settings.filter (fun setting => setting.output == .enum)
        = other.settings.filter (fun setting => setting.output == .enum)
      ∧ config.settings.filter (·.isJoin) = other.settings.filter (·.isJoin))
    ⟨fun ⟨rest, settings, enums, joins⟩ => ⟨rest, settings, enums, joins⟩,
      fun rearranged => ⟨rearranged.rest, rearranged.settings, rearranged.enums, rearranged.joins⟩⟩

theorem Rearranged.symm {config other : Config} (rearranged : config.Rearranged other) :
    other.Rearranged config := by
  constructor
  case rest =>
    rw [rearranged.rest]
  case settings => exact rearranged.settings.symm
  case enums => exact rearranged.enums.symm
  case joins => exact rearranged.joins.symm

theorem Rearranged.distinct {config other : Config} (rearranged : config.Rearranged other)
    (distinct : config.DistinctClasses) : other.DistinctClasses :=
  (rearranged.settings.map Setting.className).nodup_iff.mp distinct

end Config

/-- Whether the sheet of a setting is neither an enumeration nor joined. -/
def Setting.IsPlain (setting : Setting) : Prop :=
  setting.output ≠ .enum ∧ setting.join = none

namespace Config

/-- Rearranged settings run in the same order but for the sheets that are neither
enumerations nor joined. -/
theorem Rearranged.ordered {config other : Config} (rearranged : config.Rearranged other) :
    ∃ enums front back joins, config.ordered = enums ++ front ++ joins
      ∧ other.ordered = enums ++ back ++ joins
      ∧ front.Perm back ∧ ∀ setting ∈ front, setting.IsPlain := by
  have joins := congrArg (List.filter fun setting => !(setting.output == .enum)) rearranged.joins
  simp only [List.filter_filter] at joins
  refine ⟨_, _, _, _, rfl, ?_, rearranged.settings.filter _, ?_⟩
  · rw [Config.ordered, rearranged.enums, joins]
  · intro setting member
    simpa [Setting.IsPlain, Setting.isJoin] using (List.mem_filter.mp member).2

end Config

end TypedSheets
