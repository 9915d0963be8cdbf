import Mathlib.Data.List.DropRight
import TypedSheets.Conversion.Convert

/-!
# The blanks around a text

Trimming takes off blanks at both ends and stops at the first and at the last character that
is visible. Unifying the line ends of a text, which are blanks, changes nothing about where
that is, so a cell has the same visible characters whatever blanks stand around them.
-/

namespace TypedSheets.Text

variable {characters front back : List Char} {character : Char}

/-! ## Ends of a text -/

@[simp] theorem trimStart_trimStart (characters : List Char) :
    trimStart (trimStart characters) = trimStart characters :=
  List.dropWhile_idempotent isBlank characters

@[simp] theorem trimChars_trimStart (characters : List Char) :
    trimChars (trimStart characters) = trimChars characters := by
  simp only [trimChars, trimStart_trimStart]

theorem trimStart_ne_nil {characters : List Char} (visible : trimChars characters ≠ []) :
    trimStart characters ≠ [] := by
  intro empty
  apply visible
  rw [trimChars, empty]
  rfl

/-- What follows characters that are not all blank does not change where they begin. -/
theorem trimStart_append {characters : List Char} (visible : trimStart characters ≠ [])
    (rest : List Char) : trimStart (characters ++ rest) = trimStart characters ++ rest := by
  simp only [trimStart] at visible ⊢
  rw [List.dropWhile_append, if_neg (by simpa using visible)]

theorem trimEnd_concat {last : Char} (ends : isBlank last = false) (characters : List Char) :
    trimEnd (characters ++ [last]) = characters ++ [last] := by
  rw [trimEnd, List.reverse_concat, List.dropWhile_cons_of_neg (by simp [ends]), List.reverse_cons,
    List.reverse_reverse]

theorem trimStart_blank_append (blank : ∀ character ∈ front, isBlank character = true)
    (characters : List Char) : trimStart (front ++ characters) = trimStart characters :=
  List.dropWhile_append_of_pos blank

theorem trimEnd_append_blank (blank : ∀ character ∈ back, isBlank character = true)
    (characters : List Char) : trimEnd (characters ++ back) = trimEnd characters := by
  have reversed : ∀ character ∈ back.reverse, isBlank character = true := by
    intro character member
    exact blank character (List.mem_reverse.mp member)
  rw [trimEnd, trimEnd, List.reverse_append, List.dropWhile_append_of_pos reversed]

theorem trimStart_append_cons (visible : isBlank character = false) (front back : List Char) :
    trimStart (front ++ character :: back) = trimStart front ++ character :: back := by
  induction front with
  | nil => exact List.dropWhile_cons_of_neg (by simp [visible])
  | cons first front ih =>
      by_cases blank : isBlank first = true
      · simpa [trimStart, blank] using ih
      · simp [trimStart, blank]

theorem trimEnd_append_cons (visible : isBlank character = false) (front back : List Char) :
    trimEnd (front ++ character :: back) = front ++ character :: trimEnd back := by
  have mirrored := trimStart_append_cons visible back.reverse front.reverse
  rw [trimStart, trimStart] at mirrored
  rw [trimEnd, trimEnd, List.reverse_append, List.reverse_cons, List.append_assoc,
    List.singleton_append, mirrored]
  simp

/-- A visible character in a text ends the trimming from both sides. -/
theorem trimChars_append_cons (visible : isBlank character = false) (front back : List Char) :
    trimChars (front ++ character :: back) = trimStart front ++ character :: trimEnd back := by
  rw [trimChars, trimStart_append_cons visible, trimEnd_append_cons visible]

theorem trimStart_eq_nil (blank : ∀ character ∈ characters, isBlank character = true) :
    trimStart characters = [] := by
  simpa using trimStart_blank_append blank []

theorem trimEnd_eq_nil (blank : ∀ character ∈ characters, isBlank character = true) :
    trimEnd characters = [] := by
  simpa using trimEnd_append_blank blank []

theorem trimChars_eq_nil (blank : ∀ character ∈ characters, isBlank character = true) :
    trimChars characters = [] := by
  rw [trimChars, trimStart_eq_nil blank, trimEnd_nil]

/-- Characters that are not all blank have a last visible one. -/
theorem exists_last_visible (characters : List Char) :
    (∀ character ∈ characters, isBlank character = true)
      ∨ ∃ front last back, characters = front ++ last :: back ∧ isBlank last = false
        ∧ ∀ character ∈ back, isBlank character = true := by
  induction characters using List.reverseRecOn with
  | nil => simp
  | append_singleton characters final ih =>
      by_cases blank : isBlank final = true
      · rcases ih with every | ⟨front, last, back, split, visible, after⟩
        · exact .inl (List.forall_mem_append.mpr ⟨every, by simpa using blank⟩)
        · refine .inr ⟨front, last, back ++ [final], by simp [split], visible, ?_⟩
          exact List.forall_mem_append.mpr ⟨after, by simpa using blank⟩
      · exact .inr ⟨characters, final, [], rfl, by simpa using blank, by simp⟩

/-- What is taken off the end is blank. -/
theorem exists_append_trimEnd (characters : List Char) :
    ∃ back, (∀ character ∈ back, isBlank character = true)
      ∧ characters = trimEnd characters ++ back := by
  refine ⟨characters.rtakeWhile isBlank, ?_, List.rdropWhile_append_rtakeWhile.symm⟩
  intro character member
  exact List.mem_rtakeWhile_imp member

/-- What is taken off both ends is blank. -/
theorem exists_blanks_trimChars (characters : List Char) :
    ∃ front back, (∀ character ∈ front, isBlank character = true)
      ∧ (∀ character ∈ back, isBlank character = true)
      ∧ characters = front ++ trimChars characters ++ back := by
  rcases exists_append_trimEnd (trimStart characters) with ⟨back, after, split⟩
  refine ⟨characters.takeWhile isBlank, back, ?_, after, ?_⟩
  · intro character member
    exact List.mem_takeWhile_imp member
  · rw [trimChars, List.append_assoc, ← split, trimStart, List.takeWhile_append_dropWhile]

theorem trimChars_blank_append (blank : ∀ character ∈ front, isBlank character = true)
    (characters : List Char) : trimChars (front ++ characters) = trimChars characters := by
  rw [trimChars, trimChars, trimStart_blank_append blank]

theorem trimChars_append_blank (blank : ∀ character ∈ back, isBlank character = true)
    (characters : List Char) : trimChars (characters ++ back) = trimChars characters := by
  rcases exists_last_visible characters with every | ⟨front, last, after, rfl, visible, trailing⟩
  · rw [trimChars_eq_nil every, trimChars_eq_nil (List.forall_mem_append.mpr ⟨every, blank⟩)]
  · have trailed := List.forall_mem_append.mpr ⟨trailing, blank⟩
    rw [List.append_assoc, List.cons_append, trimChars_append_cons visible,
      trimChars_append_cons visible, trimEnd_eq_nil trailing, trimEnd_eq_nil trailed]

theorem trimChars_trimEnd (characters : List Char) :
    trimChars (trimEnd characters) = trimChars characters := by
  rcases exists_append_trimEnd characters with ⟨back, blank, split⟩
  conv_rhs => rw [split, trimChars_append_blank blank]

@[simp] theorem trimChars_trimChars (characters : List Char) :
    trimChars (trimChars characters) = trimChars characters := by
  have ends : trimChars (trimChars characters) = trimChars (trimStart characters) :=
    trimChars_trimEnd (trimStart characters)
  rw [ends, trimChars_trimStart]

theorem ne_of_isBlank {character other : Char} (shown : isBlank other = false)
    (blank : isBlank character = true) : character ≠ other := by
  rintro rfl
  rw [shown] at blank
  cases blank

theorem notMem_of_forall_blank (blank : ∀ other ∈ characters, isBlank other = true)
    (visible : isBlank character = false) : character ∉ characters :=
  fun member => ne_of_isBlank visible (blank character member) rfl

theorem mem_of_mem_trimEnd (member : character ∈ trimEnd characters) : character ∈ characters :=
  List.mem_reverse.mp ((List.dropWhile_sublist _).mem (List.mem_reverse.mp member))

theorem mem_of_mem_trimChars (member : character ∈ trimChars characters) :
    character ∈ characters :=
  (List.dropWhile_sublist _).mem (mem_of_mem_trimEnd member)

/-! ## Line ends -/

theorem unifyLineEnds_cons {rest : List Char}
    (ordinary : ¬(character = '\r' ∧ rest.head? = some '\n')) :
    unifyLineEnds (character :: rest) = character :: unifyLineEnds rest := by
  rw [unifyLineEnds]
  rintro following rfl rfl
  exact ordinary ⟨rfl, rfl⟩

theorem unifyLineEnds_append_cons (notReturn : character ≠ '\r') (notFeed : character ≠ '\n')
    (front back : List Char) :
    unifyLineEnds (front ++ character :: back)
      = unifyLineEnds front ++ character :: unifyLineEnds back := by
  fun_induction unifyLineEnds front with
  | case1 => exact unifyLineEnds_cons fun both => notReturn both.1
  | case2 rest ih => simp [unifyLineEnds, ih]
  | case3 first rest other ih =>
      rw [List.cons_append, unifyLineEnds_cons, ih, List.cons_append]
      rintro ⟨rfl, begins⟩
      cases rest with
      | nil => exact notFeed (Option.some.inj begins)
      | cons second rest =>
          obtain rfl := Option.some.inj begins
          exact other rest rfl rfl

/-- A visible character is not part of a line end. -/
theorem unifyLineEnds_append_of_visible (visible : isBlank character = false)
    (front back : List Char) :
    unifyLineEnds (front ++ character :: back)
      = unifyLineEnds front ++ unifyLineEnds (character :: back) := by
  have notReturn : character ≠ '\r' := (ne_of_isBlank visible (by decide)).symm
  have notFeed : character ≠ '\n' := (ne_of_isBlank visible (by decide)).symm
  rw [unifyLineEnds_append_cons notReturn notFeed, unifyLineEnds_cons fun both => notReturn both.1]

theorem mem_of_mem_unifyLineEnds (member : character ∈ unifyLineEnds characters) :
    character ∈ characters := by
  fun_induction unifyLineEnds characters with
  | case1 => exact member
  | case2 rest ih =>
      rcases List.mem_cons.mp member with rfl | later
      · simp
      · exact List.mem_cons_of_mem _ (List.mem_cons_of_mem _ (ih later))
  | case3 first rest _ ih =>
      rcases List.mem_cons.mp member with rfl | later
      · exact List.mem_cons_self
      · exact List.mem_cons_of_mem _ (ih later)

/-- Characters without a carriage return stay, whatever follows them. -/
theorem unifyLineEnds_append_of_not_mem (free : '\r' ∉ front) (rest : List Char) :
    unifyLineEnds (front ++ rest) = front ++ unifyLineEnds rest := by
  induction front with
  | nil => rfl
  | cons first front ih =>
      rw [List.mem_cons, not_or] at free
      rw [List.cons_append, unifyLineEnds_cons fun both => free.1 both.1.symm, ih free.2,
        List.cons_append]

theorem unifyLineEnds_of_not_mem (free : '\r' ∉ characters) :
    unifyLineEnds characters = characters := by
  simpa [unifyLineEnds] using unifyLineEnds_append_of_not_mem free []

theorem unifyLineEnds_eq_nil_iff : unifyLineEnds characters = [] ↔ characters = [] := by
  fun_cases unifyLineEnds characters <;> simp

theorem trimStart_unifyLineEnds (characters : List Char) :
    trimStart (unifyLineEnds characters) = unifyLineEnds (trimStart characters) := by
  fun_induction unifyLineEnds characters with
  | case1 => rfl
  | case2 rest ih => exact ih
  | case3 first rest other ih =>
      by_cases blank : isBlank first = true
      · simpa [trimStart, blank] using ih
      · have ordinary : unifyLineEnds (first :: rest) = first :: unifyLineEnds rest :=
          unifyLineEnds.eq_3 first rest other
        simp [trimStart, blank, ordinary]

/-- Unifying line ends, which are blanks, keeps the first and the last visible character. -/
theorem trimChars_unifyLineEnds (characters : List Char) :
    trimChars (unifyLineEnds characters) = unifyLineEnds (trimChars characters) := by
  rcases exists_last_visible characters with blank | ⟨front, last, back, rfl, visible, after⟩
  · rw [trimChars_eq_nil blank, trimChars_eq_nil]
    · rfl
    · exact fun character member => blank character (mem_of_mem_unifyLineEnds member)
  · have notReturn : last ≠ '\r' := (ne_of_isBlank visible (by decide)).symm
    have notFeed : last ≠ '\n' := (ne_of_isBlank visible (by decide)).symm
    have afterUnified : ∀ character ∈ unifyLineEnds back, isBlank character = true :=
      fun character member => after character (mem_of_mem_unifyLineEnds member)
    rw [unifyLineEnds_append_cons notReturn notFeed, trimChars_append_cons visible,
      trimChars_append_cons visible, trimEnd_eq_nil after, trimEnd_eq_nil afterUnified,
      unifyLineEnds_append_cons notReturn notFeed, trimStart_unifyLineEnds]
    rfl

theorem trimChars_unifyLineEnds_eq_nil_iff :
    trimChars (unifyLineEnds characters) = [] ↔ trimChars characters = [] := by
  rw [trimChars_unifyLineEnds, unifyLineEnds_eq_nil_iff]

/-! ## Cells -/

/-- The characters of a cell that count: those between the blanks, with their line ends
unified. -/
def visible (raw : String) : List Char := trimChars (unifyLineEnds raw.toList)

end TypedSheets.Text
