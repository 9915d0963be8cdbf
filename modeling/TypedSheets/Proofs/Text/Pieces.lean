import TypedSheets.Proofs.Text.Split
import TypedSheets.Proofs.Text.Trim

/-!
# Pieces without the blanks around them

A text is cut into pieces by reading it character by character: each character either goes
on with the piece or divides it from the next one. Where blanks never divide pieces nor change
what comes after them, blanks around the text are blanks around its first and last piece, so
the pieces without blanks do not depend on them.
-/

namespace TypedSheets.Text

variable {σ : Type} {read : σ → Char → Option σ} {state next : σ}
variable {characters text : List Char} {character : Char}

/-- Pieces with more characters at the beginning of the first one. -/
def attach (front : List Char) : List (List Char) → List (List Char)
  | [] => [front]
  | piece :: pieces => (front ++ piece) :: pieces

/-- Cut a text where reading a character gives no state; reading goes on in the state before. -/
def splitBy (read : σ → Char → Option σ) (state : σ) : List Char → List (List Char)
  | [] => [[]]
  | character :: rest =>
      match read state character with
      | none => [] :: splitBy read state rest
      | some next => attach [character] (splitBy read next rest)

theorem attach_ne_nil (front : List Char) (pieces : List (List Char)) : attach front pieces ≠ [] := by
  cases pieces <;> exact List.cons_ne_nil _ _

theorem splitBy_ne_nil (state : σ) (characters : List Char) : splitBy read state characters ≠ [] := by
  cases characters with
  | nil => exact List.cons_ne_nil _ _
  | cons character rest =>
      rw [splitBy]
      split
      · exact List.cons_ne_nil _ _
      · exact attach_ne_nil _ _

theorem attach_nil {pieces : List (List Char)} (some : pieces ≠ []) : attach [] pieces = pieces := by
  cases pieces with
  | nil => exact absurd rfl some
  | cons piece pieces => rfl

theorem attach_attach (first second : List Char) (pieces : List (List Char)) :
    attach first (attach second pieces) = attach (first ++ second) pieces := by
  cases pieces with
  | nil => rfl
  | cons piece pieces => simp only [attach, List.append_assoc]

/-- Text without a division in it belongs to the first piece of what follows. -/
theorem splitBy_append (whole : text.foldlM read state = some next) (rest : List Char) :
    splitBy read state (text ++ rest) = attach text (splitBy read next rest) := by
  induction text generalizing state with
  | nil =>
      obtain rfl := Option.some.inj whole
      exact (attach_nil (splitBy_ne_nil _ _)).symm
  | cons character text ih =>
      rw [List.foldlM_cons] at whole
      rcases Option.bind_eq_some_iff.mp whole with ⟨after, found, whole⟩
      rw [List.cons_append, splitBy, found]
      simp only [ih whole, attach_attach, List.singleton_append]

/-- Texts without a division, read from a state back to it, come back when they are joined by
a character that divides pieces in this state. -/
theorem splitBy_intercalate {separator : Char} {texts : List (List Char)}
    (divides : read state separator = none) (nonempty : texts ≠ [])
    (whole : ∀ text ∈ texts, text.foldlM read state = some state) :
    splitBy read state ([separator].intercalate texts) = texts := by
  induction texts with
  | nil => exact absurd rfl nonempty
  | cons text texts ih =>
      rcases List.forall_mem_cons.mp whole with ⟨first, others⟩
      cases texts with
      | nil =>
          have alone := splitBy_append first []
          rw [List.append_nil] at alone
          rw [List.intercalate_singleton, alone]
          simp only [splitBy, attach, List.append_nil]
      | cons following texts =>
          have rest := ih (List.cons_ne_nil _ _) others
          rw [List.intercalate_cons_cons, List.append_assoc, List.singleton_append,
            splitBy_append first, splitBy, divides]
          simp only [rest, attach, List.append_nil]

/-! ## Blanks around pieces -/

theorem trimEnd_cons_congr {left right : List Char} (same : trimEnd left = trimEnd right)
    (character : Char) : trimEnd (character :: left) = trimEnd (character :: right) := by
  rcases exists_append_trimEnd left with ⟨afterLeft, blankLeft, splitLeft⟩
  rcases exists_append_trimEnd right with ⟨afterRight, blankRight, splitRight⟩
  rw [splitLeft, splitRight, ← List.cons_append, ← List.cons_append, trimEnd_append_blank blankLeft,
    trimEnd_append_blank blankRight, same]

theorem map_trimEnd_attach {left right : List (List Char)}
    (same : left.map trimEnd = right.map trimEnd) (character : Char) :
    (attach [character] left).map trimEnd = (attach [character] right).map trimEnd := by
  cases left with
  | nil =>
      obtain rfl : right = [] := by simpa using same.symm
      rfl
  | cons piece pieces =>
      cases right with
      | nil => simp at same
      | cons other others =>
          rw [List.map_cons, List.map_cons, List.cons.injEq] at same
          simp only [attach, List.singleton_append, List.map_cons, trimEnd_cons_congr same.1, same.2]

/-- Pieces that agree up to the blanks after them agree up to the blanks around them. -/
theorem map_trimChars_of_map_trimEnd {left right : List (List Char)}
    (same : left.map trimEnd = right.map trimEnd) : left.map trimChars = right.map trimChars := by
  have ends : trimChars ∘ trimEnd = trimChars := by
    funext piece
    exact trimChars_trimEnd piece
  rw [← ends, ← List.map_map, ← List.map_map, same]

/-! ## Blanks around a text -/

section Passing

variable (passes : ∀ state character, isBlank character = true → read state character = some state)
include passes

theorem foldlM_blank {blanks : List Char} (blank : ∀ character ∈ blanks, isBlank character = true)
    (state : σ) : blanks.foldlM read state = some state := by
  induction blanks with
  | nil => rfl
  | cons first blanks ih =>
      rcases List.forall_mem_cons.mp blank with ⟨here, others⟩
      rw [List.foldlM_cons, passes state first here]
      exact ih others

/-- Blanks before a text belong to its first piece. -/
theorem map_trimChars_splitBy_blank_append {front : List Char}
    (blank : ∀ character ∈ front, isBlank character = true) (state : σ) (characters : List Char) :
    (splitBy read state (front ++ characters)).map trimChars
      = (splitBy read state characters).map trimChars := by
  rw [splitBy_append (foldlM_blank passes blank state)]
  have filled : splitBy read state characters ≠ [] := splitBy_ne_nil state characters
  rcases List.exists_cons_of_ne_nil filled with ⟨piece, pieces, found⟩
  simp only [found, attach, List.map_cons, trimChars_blank_append blank]

/-- Blanks after a text belong to its last piece. -/
theorem map_trimEnd_splitBy_append_blank {back : List Char}
    (blank : ∀ character ∈ back, isBlank character = true) (state : σ) (characters : List Char) :
    (splitBy read state (characters ++ back)).map trimEnd
      = (splitBy read state characters).map trimEnd := by
  induction characters generalizing state with
  | nil =>
      have alone := splitBy_append (foldlM_blank passes blank state) []
      rw [List.append_nil] at alone
      simp only [List.nil_append, alone, splitBy, attach, List.append_nil, List.map_cons,
        List.map_nil, trimEnd_eq_nil blank, trimEnd_nil]
  | cons character characters ih =>
      rw [List.cons_append, splitBy, splitBy]
      cases read state character with
      | none => simp only [List.map_cons, ih]
      | some next => exact map_trimEnd_attach (ih next) character

/-- The pieces of a text are those of the text without the blanks around it, up to the blanks
around the pieces. -/
theorem map_trimChars_splitBy_trimChars (state : σ) (characters : List Char) :
    (splitBy read state (trimChars characters)).map trimChars
      = (splitBy read state characters).map trimChars := by
  rcases exists_blanks_trimChars characters with ⟨front, back, before, after, split⟩
  conv_rhs => rw [split]
  rw [List.append_assoc, map_trimChars_splitBy_blank_append passes before]
  exact (map_trimChars_of_map_trimEnd
    (map_trimEnd_splitBy_append_blank passes after state (trimChars characters))).symm

end Passing

/-! ## Cutting at a character -/

/-- Go on with every character but one. -/
def readUntil (separator : Char) (_ : Unit) (character : Char) : Option Unit :=
  if character = separator then none else some ()

theorem splitChars_eq_splitBy (separator : Char) (characters : List Char) :
    splitChars separator characters = splitBy (readUntil separator) () characters := by
  induction characters with
  | nil => rfl
  | cons character rest ih =>
      rw [splitChars, splitBy, readUntil, ih]
      by_cases here : character = separator
      · rw [if_pos here, if_pos here]
      · rw [if_neg here, if_neg here]
        cases found : splitBy (readUntil separator) () rest with
        | nil => simp only [found, attach]
        | cons piece pieces => simp only [found, attach, List.singleton_append]

/-- The pieces between visible separators do not depend on the blanks around a text. -/
theorem map_trimChars_splitChars_trimChars {separator : Char} (visible : isBlank separator = false)
    (characters : List Char) :
    (splitChars separator (trimChars characters)).map trimChars
      = (splitChars separator characters).map trimChars := by
  rw [splitChars_eq_splitBy, splitChars_eq_splitBy]
  apply map_trimChars_splitBy_trimChars
  intro _ character blank
  apply if_neg
  rintro rfl
  rw [visible] at blank
  cases blank

/-- Text without a separator in it belongs to the first piece of what follows. -/
theorem splitChars_append_of_not_mem {separator : Char} {front : List Char}
    (free : separator ∉ front) (rest : List Char) :
    splitChars separator (front ++ rest) = attach front (splitChars separator rest) := by
  have whole : front.foldlM (readUntil separator) () = some () := by
    induction front with
    | nil => rfl
    | cons character front ih =>
        rw [List.mem_cons, not_or] at free
        rw [List.foldlM_cons, readUntil, if_neg (Ne.symm free.1)]
        exact ih free.2
  rw [splitChars_eq_splitBy, splitChars_eq_splitBy]
  exact splitBy_append whole rest

/-- The pieces of a text do not depend on what follows, but for the last one, to which the first
piece of what follows belongs. -/
theorem exists_splitChars_append (separator : Char) (front : List Char) :
    ∃ pieces last, ∀ rest, splitChars separator (front ++ rest)
      = pieces ++ attach last (splitChars separator rest) := by
  induction front with
  | nil =>
      refine ⟨[], [], fun rest => ?_⟩
      exact (attach_nil (splitChars_ne_nil separator rest)).symm
  | cons character front ih =>
      rcases ih with ⟨pieces, last, split⟩
      by_cases here : character = separator
      · refine ⟨[] :: pieces, last, fun rest => ?_⟩
        rw [List.cons_append, splitChars, if_pos here, split, List.cons_append]
      · have alone : separator ∉ [character] := by simpa using Ne.symm here
        cases pieces with
        | nil =>
            refine ⟨[], character :: last, fun rest => ?_⟩
            rw [List.cons_append, ← List.singleton_append, splitChars_append_of_not_mem alone, split]
            exact attach_attach [character] last _
        | cons piece pieces =>
            refine ⟨(character :: piece) :: pieces, last, fun rest => ?_⟩
            rw [List.cons_append, ← List.singleton_append, splitChars_append_of_not_mem alone, split]
            rfl

theorem intercalate_append_attach (separator : List Char) (pieces : List (List Char))
    (last : List Char) {following : List (List Char)} (some : following ≠ []) :
    separator.intercalate (pieces ++ attach last following)
      = separator.intercalate (pieces ++ [last]) ++ separator.intercalate following := by
  induction pieces with
  | nil =>
      rcases List.exists_cons_of_ne_nil some with ⟨piece, others, rfl⟩
      cases others with
      | nil => simp [attach]
      | cons other others => simp [attach, List.intercalate_cons_cons]
  | cons piece pieces ih =>
      have filled : pieces ++ attach last following ≠ [] := by simp [attach_ne_nil]
      have closed : pieces ++ [last] ≠ [] := by simp
      rw [List.cons_append, List.cons_append, List.intercalate_cons_of_ne_nil filled,
        List.intercalate_cons_of_ne_nil closed, ih, ← List.append_assoc]

end TypedSheets.Text
