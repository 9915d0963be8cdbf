import TypedSheets.Proofs.Materialization.Slugs

/-!
# Names of records as file stems

A slug has letters, digits, underscores and hyphens only, and its hyphens are single: they cut no
empty pieces off, as only pieces with something in them were joined. So it is its own slug. The name
of a record is never empty, whatever the texts of its class and keys are, since there is an
underscore after the class.
-/

namespace TypedSheets

namespace Text

variable {separator character : Char} {characters : List Char}

/-- No separator is in a piece. -/
theorem separator_notMem_of_mem_splitChars {piece : List Char}
    (listed : piece ∈ splitChars separator characters) : separator ∉ piece := by
  induction characters generalizing piece with
  | nil =>
      rw [splitChars_nil, List.mem_singleton] at listed
      rw [listed]
      exact List.not_mem_nil
  | cons first characters ih =>
      rw [splitChars] at listed
      split at listed
      · rcases List.mem_cons.mp listed with rfl | later
        · exact List.not_mem_nil
        · exact ih later
      · next other =>
          rcases List.exists_cons_of_ne_nil (splitChars_ne_nil separator characters) with
            ⟨begins, pieces, found⟩
          rw [found] at listed ih
          rcases List.mem_cons.mp listed with rfl | later
          · exact List.not_mem_cons_of_ne_of_not_mem (Ne.symm other) (ih List.mem_cons_self)
          · exact ih (List.mem_cons_of_mem _ later)

end Text

namespace Materialization

open Text

variable {character : Char} {characters : List Char} {name : String}

/-! ## Single hyphens -/

/-- Whether there are hyphens only between other characters, and never two of them together. -/
structure SingleHyphens (characters : List Char) : Prop where
  begins : characters.head? ≠ some '-'
  ends : characters.getLast? ≠ some '-'
  single : ¬['-', '-'] <:+: characters

/-- Where hyphens cut no empty pieces off, they are single. -/
theorem singleHyphens_of_whole (whole : ∀ piece ∈ splitChars '-' characters, piece ≠ []) :
    SingleHyphens characters := by
  constructor
  case begins =>
    intro begins
    rcases List.head?_eq_some_iff.mp begins with ⟨rest, rfl⟩
    exact whole [] (by simp [splitChars]) rfl
  case ends =>
    intro ends
    rcases List.getLast?_eq_some_iff.mp ends with ⟨front, rfl⟩
    exact whole [] (by simp [splitChars_append_cons]) rfl
  case single =>
    rintro ⟨front, back, rfl⟩
    have cut : splitChars '-' (front ++ ['-', '-'] ++ back)
        = splitChars '-' front ++ [] :: splitChars '-' back := by
      rw [List.append_assoc]
      exact splitChars_append_cons front ('-' :: back)
    apply whole [] _ rfl
    rw [cut]
    exact List.mem_append_right _ List.mem_cons_self

/-- Hyphens cut collapsed characters into the pieces they were made of. -/
theorem splitChars_collapse (filled : (splitChars '-' characters).filter (· ≠ []) ≠ []) :
    splitChars '-' (collapse characters) = (splitChars '-' characters).filter (· ≠ []) := by
  have free : ∀ piece ∈ (splitChars '-' characters).filter (· ≠ []), '-' ∉ piece :=
    fun piece listed => separator_notMem_of_mem_splitChars (List.mem_of_mem_filter listed)
  rw [collapse, splitChars_intercalate free filled]

/-- The hyphens of collapsed characters cut no empty pieces off. -/
theorem whole_collapse (filled : (splitChars '-' characters).filter (· ≠ []) ≠ []) :
    ∀ piece ∈ splitChars '-' (collapse characters), piece ≠ [] := by
  intro piece listed
  rw [splitChars_collapse filled, List.mem_filter] at listed
  exact of_decide_eq_true listed.2

/-- Characters that are not all hyphens have a piece. -/
theorem pieces_ne_nil (member : character ∈ characters) (other : character ≠ '-') :
    (splitChars '-' characters).filter (· ≠ []) ≠ [] := by
  intro none
  rw [List.filter_eq_nil_iff] at none
  have absent : character ∉ ['-'].intercalate (splitChars '-' characters) := by
    apply notMem_intercalate other
    intro piece listed inside
    exact none piece listed (decide_eq_true (List.ne_nil_of_mem inside))
  rw [intercalate_splitChars] at absent
  exact absent member

/-- Characters whose hyphens cut no empty pieces off are collapsed. -/
theorem collapse_eq_self (whole : ∀ piece ∈ splitChars '-' characters, piece ≠ []) :
    collapse characters = characters := by
  rw [collapse, filter_eq_self_of_whole whole, intercalate_splitChars]

theorem eq_hyphen_or_mem_of_mem_collapse (member : character ∈ collapse characters) :
    character = '-' ∨ character ∈ characters := by
  by_contra neither
  rw [not_or] at neither
  apply notMem_intercalate neither.1 _ member
  intro piece listed inside
  exact neither.2 (mem_of_mem_splitChars (List.mem_of_mem_filter listed) inside)

/-! ## Stems -/

/-- Whether a character may be in the name of a record. -/
def IsStemCharacter (character : Char) : Prop :=
  isAlphanumeric character = true ∨ character = '_' ∨ character = '-'

theorem isStemCharacter_slugged (character : Char) : IsStemCharacter (slugged character) := by
  rw [slugged]
  split
  · next kept =>
      rw [Bool.or_eq_true, beq_iff_eq] at kept
      exact kept.imp_right .inl
  · exact .inr (.inr rfl)

theorem slugged_eq_self (stem : IsStemCharacter character) : slugged character = character := by
  rcases stem with alphanumeric | rfl | rfl
  · simp [slugged, alphanumeric]
  · exact slugged_underscore
  · exact slugged_hyphen

/-- Whether a text is a safe stem of a file name: there is something in it, it has letters, digits,
underscores and single hyphens only, and its slug is itself. -/
structure IsStem (name : String) : Prop where
  visible : name ≠ ""
  characters : ∀ character ∈ name.toList, IsStemCharacter character
  hyphens : SingleHyphens name.toList
  stable : slug name = name

/-- The slug of a text in which something is kept is a stem. -/
theorem isStem_slug (member : character ∈ name.toList) (kept : slugged character ≠ '-') :
    IsStem (slug name) := by
  have whole : ∀ piece ∈ splitChars '-' (slug name).toList, piece ≠ [] := by
    rw [toList_slug]
    exact whole_collapse (pieces_ne_nil (List.mem_map_of_mem member) kept)
  have characters : ∀ character ∈ (slug name).toList, IsStemCharacter character := by
    intro character inside
    rw [toList_slug] at inside
    rcases eq_hyphen_or_mem_of_mem_collapse inside with hyphen | within
    · exact .inr (.inr hyphen)
    · rcases List.mem_map.mp within with ⟨before, _, rfl⟩
      exact isStemCharacter_slugged before
  constructor
  case visible =>
    intro nothing
    exact whole [] (by simp [nothing]) rfl
  case characters => exact characters
  case hyphens => exact singleHyphens_of_whole whole
  case stable =>
    have same := List.map_congr_left fun character inside =>
      slugged_eq_self (characters character inside)
    rw [← String.toList_inj, toList_slug, same, List.map_id', collapse_eq_self whole]

/-- The name of a record is a stem: there is an underscore after the class in any case. -/
theorem isStem_assetName (className : String) (record : Record) (keys : List String) (row : Nat) :
    IsStem (assetName className record keys row) := by
  rw [assetName]
  generalize parts : (if keys = [] then [Nat.repr row]
    else keys.map fun key => ((record.get? key).map Value.keyText).getD "") = texts
  have filled : texts ≠ [] := by
    rw [← parts]
    split
    · exact List.cons_ne_nil _ _
    · next keyed => simpa using keyed
  rcases List.exists_cons_of_ne_nil filled with ⟨first, others, rfl⟩
  have underscore : '_' ∈ ("_".intercalate (className :: first :: others)).toList := by
    rw [String.toList_intercalate]
    simp [List.intercalate_cons_cons]
  exact isStem_slug underscore (by simp [slugged_underscore])

end Materialization

end TypedSheets
