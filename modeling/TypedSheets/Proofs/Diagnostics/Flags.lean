import Mathlib.Data.Nat.Bitwise
import TypedSheets.Diagnostics

/-!
# Conditions of a report

Every named condition is one bit, so a set holds it exactly when that bit is set, and a
union holds it exactly when one of its parts does. The conditions of a report are those
of its issues.
-/

namespace TypedSheets

namespace Flags

/-- Whether a set consists of one condition. -/
def IsSingle (flag : Flags) : Prop := ∃ position, flag.bits.toNat = 2 ^ position

/-- The named conditions are single ones. -/
theorem isSingle_of_named {entry : Flags × String} (member : entry ∈ named) : entry.1.IsSingle := by
  simp only [named, List.mem_cons, List.not_mem_nil, or_false] at member
  rcases member with rfl | rfl | rfl | rfl | rfl | rfl | rfl
  · exact ⟨0, rfl⟩
  · exact ⟨1, rfl⟩
  · exact ⟨2, rfl⟩
  · exact ⟨3, rfl⟩
  · exact ⟨4, rfl⟩
  · exact ⟨5, rfl⟩
  · exact ⟨6, rfl⟩

theorem contains_eq_testBit {flag : Flags} {position : Nat}
    (single : flag.bits.toNat = 2 ^ position) (flags : Flags) :
    flags.contains flag = flags.bits.toNat.testBit position := by
  have positive : 0 < 2 ^ position := Nat.two_pow_pos position
  have nonzero : flag.bits ≠ 0 := by
    intro zero
    rw [zero] at single
    simp only [UInt32.toNat_zero] at single
    omega
  have same : flags.bits &&& flag.bits = flag.bits ↔ flags.bits.toNat.testBit position = true := by
    rw [← UInt32.toNat_inj, UInt32.toNat_and, single, Nat.and_two_pow]
    cases flags.bits.toNat.testBit position with
    | false => simp; omega
    | true => simp
  rw [Bool.eq_iff_iff, ← same]
  simp [contains, nonzero]

/-- A union holds a condition when one of its parts does. -/
theorem contains_union {flag : Flags} (single : flag.IsSingle) (left right : Flags) :
    (left.union right).contains flag = (left.contains flag || right.contains flag) := by
  rcases single with ⟨position, bit⟩
  simp only [contains_eq_testBit bit, union, UInt32.toNat_or, Nat.testBit_or]

end Flags

namespace Report

@[simp] theorem issues_addAll (report : Report) (issues : List Issue) :
    (report.addAll issues).issues = report.issues ++ issues := by
  induction issues generalizing report with
  | nil => simp [addAll]
  | cons issue issues ih =>
      have step := ih (report.add issue)
      simp only [addAll, List.foldl_cons] at step ⊢
      rw [step]
      simp [add]

@[simp] theorem issues_ofIssues (issues : List Issue) : (ofIssues issues).issues = issues := by
  simp [ofIssues, empty]

/-- Adding issues adds exactly their conditions. -/
theorem contains_flags_addAll {flag : Flags} (single : flag.IsSingle) (report : Report)
    (issues : List Issue) :
    (report.addAll issues).flags.contains flag
      = (report.flags.contains flag || issues.any fun issue => issue.flag.contains flag) := by
  induction issues generalizing report with
  | nil => simp [addAll]
  | cons issue issues ih =>
      have step := ih (report.add issue)
      simp only [addAll, List.foldl_cons] at step ⊢
      rw [step]
      simp only [add, Flags.contains_union single, List.any_cons, Bool.or_assoc]

/-- A report has the conditions of its issues and no other ones. -/
theorem contains_flags_ofIssues {flag : Flags} (single : flag.IsSingle) (issues : List Issue) :
    (ofIssues issues).flags.contains flag = issues.any fun issue => issue.flag.contains flag := by
  have none : Report.empty.flags.contains flag = false := by
    rcases single with ⟨position, bit⟩
    rw [Flags.contains_eq_testBit bit]
    exact Nat.zero_testBit position
  rw [ofIssues, contains_flags_addAll single, none, Bool.false_or]

end Report

end TypedSheets
