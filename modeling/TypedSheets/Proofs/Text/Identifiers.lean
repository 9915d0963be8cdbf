import Mathlib
import TypedSheets.Conversion.Members
import TypedSheets.Proofs.Text.Split
import TypedSheets.Proofs.Text.Trim

/-!
# Identifiers

No word character is blank, a dot or a bar, so identifiers stay apart with these between them: a
list of identifiers with bars gives them back when it is cut at the bars, whatever blanks are
around the bars and however its lines end.
-/

namespace TypedSheets.Text

variable {character : Char} {name text front : List Char} {names : List (List Char)}

/-! ## Word characters -/

/-- The code points of the blank characters. -/
def blankCodes : List Nat :=
  [9, 10, 11, 12, 13, 0x20, 0x85, 0xA0, 0x1680, 0x2000, 0x2001, 0x2002, 0x2003, 0x2004, 0x2005,
    0x2006, 0x2007, 0x2008, 0x2009, 0x200A, 0x2028, 0x2029, 0x202F, 0x205F, 0x3000]

theorem mem_blankCodes (blank : isBlank character = true) : character.toNat ∈ blankCodes := by
  simp only [isBlank, Bool.or_eq_true, Bool.and_eq_true, decide_eq_true_eq, beq_iff_eq] at blank
  simp only [blankCodes, List.mem_cons, List.not_mem_nil, or_false]
  omega

theorem isBlank_of_isWord (word : isWord character = true) : isBlank character = false := by
  have outside : ∀ code ∈ blankCodes, inClass Class.wordBounds code = false := by decide +kernel
  rw [← Bool.not_eq_true]
  intro blank
  rw [isWord, outside _ (mem_blankCodes blank)] at word
  cases word

theorem isWord_of_isNameStart (starts : isNameStart character = true) :
    isWord character = true := by
  have inside : ∀ code < 128, (65 ≤ code ∧ code ≤ 90) ∨ (97 ≤ code ∧ code ≤ 122) ∨ code = 95 →
      inClass Class.wordBounds code = true := by decide +kernel
  have letter : (65 ≤ character.toNat ∧ character.toNat ≤ 90)
      ∨ (97 ≤ character.toNat ∧ character.toNat ≤ 122) ∨ character.toNat = 95 := by
    simp only [isNameStart, Char.isAlpha, Char.isUpper, Char.isLower, ge_iff_le, Bool.or_eq_true,
      Bool.and_eq_true, decide_eq_true_eq, UInt32.le_iff_toNat_le, beq_iff_eq] at starts
    rcases starts with (upper | lower) | rfl
    · exact .inl upper
    · exact .inr (.inl lower)
    · exact .inr (.inr rfl)
  exact inside _ (by omega) letter

theorem isWord_dot : isWord '.' = false := by decide +kernel

theorem isWord_bar : isWord '|' = false := by decide +kernel

/-! ## Identifiers -/

theorem isWord_of_mem_identifier (identifier : isIdentifier name = true)
    (member : character ∈ name) : isWord character = true := by
  cases name with
  | nil => cases member
  | cons first rest =>
      rw [isIdentifier, Bool.and_eq_true, List.all_eq_true] at identifier
      rcases List.mem_cons.mp member with rfl | later
      · exact isWord_of_isNameStart identifier.1
      · exact identifier.2 _ later

theorem notMem_identifier (identifier : isIdentifier name = true)
    (noWord : isWord character = false) : character ∉ name := by
  intro member
  rw [isWord_of_mem_identifier identifier member] at noWord
  cases noWord

theorem isBlank_of_mem_identifier (identifier : isIdentifier name = true)
    (member : character ∈ name) : isBlank character = false :=
  isBlank_of_isWord (isWord_of_mem_identifier identifier member)

theorem return_notMem_identifier (identifier : isIdentifier name = true) : '\r' ∉ name := by
  intro member
  exact absurd (isBlank_of_mem_identifier identifier member) (by decide)

theorem exists_start_identifier (identifier : isIdentifier name = true) :
    ∃ first rest, name = first :: rest ∧ isBlank first = false := by
  cases name with
  | nil => cases identifier
  | cons first rest =>
      exact ⟨first, rest, rfl, isBlank_of_mem_identifier identifier List.mem_cons_self⟩

/-! ## Identifiers between bars -/

/-- Whether a text lists identifiers, with a bar between two of them that may have blanks around
it. -/
inductive ListsIdentifiers : List (List Char) → List Char → Prop
  | single {name : List Char} (identifier : isIdentifier name = true) : ListsIdentifiers [name] name
  | joined {name left right text : List Char} {names : List (List Char)}
      (identifier : isIdentifier name = true)
      (blankLeft : ∀ character ∈ left, isBlank character = true)
      (blankRight : ∀ character ∈ right, isBlank character = true)
      (others : ListsIdentifiers names text) :
      ListsIdentifiers (name :: names) (name ++ left ++ '|' :: (right ++ text))

namespace ListsIdentifiers

theorem isIdentifier_of_mem (lists : ListsIdentifiers names text) (member : name ∈ names) :
    isIdentifier name = true := by
  induction lists with
  | single identifier =>
      rw [List.mem_singleton.mp member]
      exact identifier
  | joined identifier _ _ _ ih =>
      rcases List.mem_cons.mp member with rfl | later
      · exact identifier
      · exact ih later

/-- No character that is neither a word character nor blank is there but the bars. -/
theorem notMem (lists : ListsIdentifiers names text) (noWord : isWord character = false)
    (shown : isBlank character = false) (noBar : character ≠ '|') : character ∉ text := by
  induction lists with
  | single identifier => exact notMem_identifier identifier noWord
  | joined identifier blankLeft blankRight _ ih =>
      simp [notMem_identifier identifier noWord, notMem_of_forall_blank blankLeft shown,
        notMem_of_forall_blank blankRight shown, noBar, ih]

theorem exists_first (lists : ListsIdentifiers names text) :
    ∃ first rest, text = first :: rest ∧ isBlank first = false := by
  cases lists with
  | single identifier => exact exists_start_identifier identifier
  | joined identifier _ _ _ =>
      rcases exists_start_identifier identifier with ⟨first, rest, rfl, shown⟩
      exact ⟨first, _, rfl, shown⟩

theorem exists_last (lists : ListsIdentifiers names text) :
    ∃ front last, text = front ++ [last] ∧ isBlank last = false := by
  induction lists with
  | single identifier =>
      rcases exists_start_identifier identifier with ⟨first, rest, rfl, _⟩
      have split := List.dropLast_append_getLast (List.cons_ne_nil first rest)
      refine ⟨(first :: rest).dropLast, _, split.symm, ?_⟩
      exact isBlank_of_mem_identifier identifier (List.getLast_mem _)
  | joined _ _ _ _ ih =>
      rcases ih with ⟨front, last, rfl, shown⟩
      exact ⟨_, last, by rw [← List.append_assoc, ← List.cons_append, ← List.append_assoc], shown⟩

theorem trimStart_eq (lists : ListsIdentifiers names text) : trimStart text = text := by
  rcases lists.exists_first with ⟨first, rest, rfl, shown⟩
  exact List.dropWhile_cons_of_neg (by simp [shown])

theorem trimEnd_eq (lists : ListsIdentifiers names text) : trimEnd text = text := by
  rcases lists.exists_last with ⟨front, last, rfl, shown⟩
  exact trimEnd_concat shown front

theorem trimChars_eq (lists : ListsIdentifiers names text) : trimChars text = text := by
  rw [trimChars, lists.trimStart_eq, lists.trimEnd_eq]

/-- Cutting a list of identifiers at its bars gives the identifiers, up to the blanks around
them. -/
theorem map_trimChars_splitChars (lists : ListsIdentifiers names text)
    (blank : ∀ character ∈ front, isBlank character = true) :
    (splitChars '|' (front ++ text)).map trimChars = names := by
  have noBarFront : '|' ∉ front := notMem_of_forall_blank blank (by decide)
  induction lists generalizing front with
  | @single name identifier =>
      have noBar : '|' ∉ front ++ name := by
        simp [noBarFront, notMem_identifier identifier isWord_bar]
      rw [splitChars_of_not_mem noBar, List.map_singleton, trimChars_blank_append blank,
        (single identifier).trimChars_eq]
  | @joined name left right text names identifier blankLeft blankRight others ih =>
      have noBarLeft : '|' ∉ left := notMem_of_forall_blank blankLeft (by decide)
      have noBar : '|' ∉ front ++ (name ++ left) := by
        simp [noBarFront, noBarLeft, notMem_identifier identifier isWord_bar]
      have noBarRight : '|' ∉ right := notMem_of_forall_blank blankRight (by decide)
      rw [← List.append_assoc, splitChars_append_cons, splitChars_of_not_mem noBar, List.map_append,
        List.map_singleton, trimChars_blank_append blank, trimChars_append_blank blankLeft,
        (single identifier).trimChars_eq, ih blankRight noBarRight, List.singleton_append]

/-- Unifying the line ends changes only the blanks around the bars. -/
theorem unifyLineEnds (lists : ListsIdentifiers names text) :
    ListsIdentifiers names (unifyLineEnds text) := by
  induction lists with
  | single identifier =>
      rw [unifyLineEnds_of_not_mem (return_notMem_identifier identifier)]
      exact .single identifier
  | @joined name left right text names identifier blankLeft blankRight others ih =>
      rcases others.exists_first with ⟨first, rest, begins, shown⟩
      have after : Text.unifyLineEnds (right ++ text)
          = Text.unifyLineEnds right ++ Text.unifyLineEnds text := by
        rw [begins, unifyLineEnds_append_of_visible shown]
      rw [unifyLineEnds_append_cons (by decide) (by decide), after,
        unifyLineEnds_append_of_not_mem (return_notMem_identifier identifier)]
      refine joined identifier ?_ ?_ ih
      · exact fun other member => blankLeft other (mem_of_mem_unifyLineEnds member)
      · exact fun other member => blankRight other (mem_of_mem_unifyLineEnds member)

end ListsIdentifiers

end TypedSheets.Text
