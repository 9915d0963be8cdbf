import TypedSheets.Proofs.Diagnostics.Flags

/-!
# The parts of a report agree

A report is its list of issues: its conditions are those of the issues, combined bit by bit,
and putting two reports together puts their lists together. Where every issue is of a named
condition, the conditions, the numbers of issues and the summary all tell the same.
-/

namespace TypedSheets

namespace Flags

theorem union_assoc (first second third : Flags) :
    (first.union second).union third = first.union (second.union third) :=
  congrArg Flags.mk (UInt32.or_assoc ..)

theorem none_union (flags : Flags) : none.union flags = flags :=
  congrArg Flags.mk UInt32.zero_or

theorem contains_self {flag : Flags} (single : flag.IsSingle) : flag.contains flag = true := by
  rcases single with ⟨position, bit⟩
  rw [contains_eq_testBit bit, bit, Nat.testBit_two_pow_self]

/-- A set that holds a condition is not empty. -/
theorem any_of_contains {flags flag : Flags} (holds : flags.contains flag = true) :
    flags.any = true := by
  simp only [contains, Bool.and_eq_true, bne_iff_ne, beq_iff_eq] at holds
  simp only [any, bne_iff_ne]
  intro nothing
  rw [nothing, UInt32.zero_and] at holds
  exact holds.1 holds.2.symm

end Flags

/-- Whether an issue is of one of the named conditions. -/
def Issue.IsNamed (issue : Issue) : Prop := issue.flag ∈ Flags.named.map Prod.fst

namespace Report

/-- Whether the conditions, the issues and the summary of a report tell the same. -/
structure Agrees (report : Report) : Prop where
  /-- The conditions are those of the issues, combined bit by bit. -/
  flags : report.flags.bits = (report.issues.map fun issue => issue.flag.bits).foldl (· ||| ·) 0
  /-- A named condition is there exactly when there is an issue of it. -/
  counts : ∀ entry ∈ Flags.named,
    report.flags.contains entry.1 = true ↔ 0 < report.count entry.1
  summary : report.summary = "no issues" ↔ report.issues = []

theorem bits_addAll (report : Report) (issues : List Issue) :
    (report.addAll issues).flags.bits
      = (issues.map fun issue => issue.flag.bits).foldl (· ||| ·) report.flags.bits := by
  induction issues generalizing report with
  | nil => rfl
  | cons issue issues ih => exact ih (report.add issue)

theorem flags_addAll (report : Report) (issues : List Issue) :
    (report.addAll issues).flags = report.flags.union (ofIssues issues).flags := by
  induction issues generalizing report with
  | nil => exact congrArg Flags.mk UInt32.or_zero.symm
  | cons issue issues ih =>
      have whole : (ofIssues (issue :: issues)).flags = issue.flag.union (ofIssues issues).flags := by
        rw [← Flags.none_union issue.flag]
        exact ih (empty.add issue)
      rw [whole, ← Flags.union_assoc]
      exact ih (report.add issue)

/-- Two reports of issues make up the report of the issues of both. -/
theorem merge_ofIssues (issues others : List Issue) :
    (ofIssues issues).merge (ofIssues others) = ofIssues (issues ++ others) := by
  have flags : (ofIssues (issues ++ others)).flags
      = (ofIssues issues).flags.union (ofIssues others).flags := by
    rw [← flags_addAll (ofIssues issues) others, ofIssues, ofIssues, addAll, addAll, addAll,
      List.foldl_append]
  rw [merge, ← flags, issues_ofIssues, issues_ofIssues]
  exact congrArg (Report.mk _) (issues_ofIssues (issues ++ others)).symm

/-- Where there are issues there is a named condition. -/
theorem exists_condition {issues : List Issue} (named : ∀ issue ∈ issues, issue.IsNamed)
    (some : issues ≠ []) :
    ∃ entry ∈ Flags.named, (ofIssues issues).flags.contains entry.1 = true := by
  rcases List.exists_mem_of_ne_nil issues some with ⟨issue, member⟩
  rcases List.mem_map.mp (named issue member) with ⟨entry, listed, same⟩
  have single := Flags.isSingle_of_named listed
  refine ⟨entry, listed, ?_⟩
  rw [contains_flags_ofIssues single, List.any_eq_true]
  exact ⟨issue, member, same ▸ Flags.contains_self single⟩

/-- A condition is there exactly when there is an issue of it. -/
theorem contains_ofIssues_iff {flag : Flags} (single : flag.IsSingle) (issues : List Issue) :
    (ofIssues issues).flags.contains flag = true ↔ 0 < (ofIssues issues).count flag := by
  rw [contains_flags_ofIssues single, List.any_eq_true, count, issues_ofIssues,
    List.length_filter_pos_iff]

theorem length_le_intercalate_cons (separator text : String) (texts : List String) :
    text.length ≤ (separator.intercalate (text :: texts)).length := by
  cases texts with
  | nil => rw [String.intercalate_singleton]
  | cons next texts =>
      rw [String.intercalate_cons_cons, String.length_append, String.length_append]
      omega

/-- The summary of a report with a named condition begins with such a name, none of which is
as short as the words for no issues. -/
theorem summary_ne_of_contains {report : Report} {entry : Flags × String}
    (listed : entry ∈ Flags.named) (holds : report.flags.contains entry.1 = true) :
    report.summary ≠ "no issues" := by
  intro quiet
  have long : ∀ entry ∈ Flags.named, "no issues".length < entry.2.length := by decide
  have present : entry ∈ Flags.named.filter fun entry => report.flags.contains entry.1 :=
    List.mem_filter.mpr ⟨listed, holds⟩
  rcases List.exists_cons_of_ne_nil (List.ne_nil_of_mem present) with ⟨first, others, counted⟩
  have among : first ∈ Flags.named.filter fun entry => report.flags.contains entry.1 := by
    rw [counted]
    exact List.mem_cons_self
  have least := length_le_intercalate_cons ", "
    (first.2 ++ ": " ++ Nat.repr (report.count first.1))
    (others.map fun entry => entry.2 ++ ": " ++ Nat.repr (report.count entry.1))
  rw [summary, if_pos (Flags.any_of_contains holds), counted, List.map_cons] at quiet
  rw [quiet, String.length_append, String.length_append] at least
  have := long first (List.mem_filter.mp among).1
  omega

theorem summary_ofIssues_iff {issues : List Issue} (named : ∀ issue ∈ issues, issue.IsNamed) :
    (ofIssues issues).summary = "no issues" ↔ issues = [] := by
  constructor
  · intro quiet
    by_contra some
    rcases exists_condition named some with ⟨entry, listed, holds⟩
    exact summary_ne_of_contains listed holds quiet
  · rintro rfl
    rfl

/-- Whether a report is made of its issues, which are of named conditions. -/
structure Sound (report : Report) : Prop where
  ofIssues : report = Report.ofIssues report.issues
  named : ∀ issue ∈ report.issues, issue.IsNamed

theorem sound_ofIssues {issues : List Issue} (named : ∀ issue ∈ issues, issue.IsNamed) :
    (Report.ofIssues issues).Sound := by
  constructor
  · rw [issues_ofIssues]
  · rwa [issues_ofIssues]

theorem sound_empty : empty.Sound :=
  sound_ofIssues (List.forall_mem_nil Issue.IsNamed)

theorem Sound.merge {report other : Report} (sound : report.Sound) (otherSound : other.Sound) :
    (report.merge other).Sound := by
  constructor
  · rw [sound.ofIssues, otherSound.ofIssues, merge_ofIssues, issues_ofIssues]
  · exact List.forall_mem_append.mpr ⟨sound.named, otherSound.named⟩

/-- The parts of a report of named conditions agree. -/
theorem Sound.agrees {report : Report} (sound : report.Sound) : report.Agrees := by
  rcases sound with ⟨made, named⟩
  generalize report.issues = issues at made named
  subst made
  constructor
  case flags =>
    rw [issues_ofIssues]
    exact bits_addAll empty issues
  case counts =>
    intro entry listed
    exact contains_ofIssues_iff (Flags.isSingle_of_named listed) issues
  case summary =>
    rw [issues_ofIssues]
    exact summary_ofIssues_iff named

end Report

end TypedSheets
