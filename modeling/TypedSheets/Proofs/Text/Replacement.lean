import Mathlib
import TypedSheets.Proofs.Text.Split

/-!
# Replacing a pattern

Characters can be replaced part by part where the pattern does not occur across the edge of the
parts, and a replacement changes nothing exactly when the pattern does not occur or is put in for
itself.
-/

namespace TypedSheets.Text

variable {pattern replacement left right characters : List Char}

/-- A beginning of two parts ends in the first one or goes on in the second one. -/
theorem prefix_append_cases (begins : pattern <+: left ++ right) :
    pattern <+: left ∨ ∃ rest, rest <+: right ∧ left ++ rest = pattern := by
  rcases List.prefix_or_prefix_of_prefix begins (List.prefix_append left right) with
    ends | ⟨rest, split⟩
  · exact .inl ends
  · rw [← split, List.prefix_append_right_inj] at begins
    exact .inr ⟨rest, begins, split⟩

/-- Whether the pattern does not occur across the edge of two parts. -/
def Apart (pattern left right : List Char) : Prop :=
  ∀ ending, ending <:+ left → ending ≠ [] → pattern <+: ending ++ right → pattern <+: ending

theorem Apart.tail {character : Char} (apart : Apart pattern (character :: left) right) :
    Apart pattern left right :=
  fun ending closes => apart ending (closes.trans (List.suffix_cons character left))

/-- Parts are replaced one by one. -/
theorem replaceFrom_append (apart : Apart pattern left right) {skip : Nat}
    (within : skip ≤ left.length) :
    replaceFrom pattern replacement skip (left ++ right)
      = replaceFrom pattern replacement skip left ++ replaceFrom pattern replacement 0 right := by
  induction left generalizing skip with
  | nil =>
      rw [Nat.le_zero.mp within]
      simp [replaceFrom]
  | cons character left ih =>
      cases skip with
      | succ skip => exact ih apart.tail (Nat.le_of_succ_le_succ within)
      | zero =>
          rw [List.cons_append]
          by_cases begins : pattern <+: character :: left
          · have fits : pattern.length - 1 ≤ left.length := by
              have bound := begins.length_le
              rw [List.length_cons] at bound
              omega
            have whole : pattern <+: character :: (left ++ right) :=
              begins.trans (List.prefix_append (character :: left) right)
            rw [replaceFrom_of_begins whole, replaceFrom_of_begins begins, ih apart.tail fits,
              List.append_assoc]
          · have differs : ¬pattern <+: character :: (left ++ right) := fun whole =>
              begins (apart _ List.suffix_rfl (List.cons_ne_nil _ _) whole)
            rw [replaceFrom_of_not_begins differs, replaceFrom_of_not_begins begins,
              ih apart.tail (Nat.zero_le _), List.cons_append]

/-- The pattern itself is replaced as a whole. -/
theorem replaceFrom_pattern (some : pattern ≠ []) :
    replaceFrom pattern replacement 0 pattern = replacement := by
  rcases List.exists_cons_of_ne_nil some with ⟨character, rest, rfl⟩
  have passed : ∀ others : List Char,
      replaceFrom (character :: rest) replacement others.length others = [] := by
    intro others
    induction others with
    | nil => rfl
    | cons other others ih => exact ih
  rw [replaceFrom_of_begins List.prefix_rfl, List.length_cons, Nat.add_sub_cancel, passed,
    List.append_nil]

theorem replaceFrom_self (some : pattern ≠ []) (skip : Nat) (characters : List Char) :
    replaceFrom pattern pattern skip characters = characters.drop skip := by
  fun_induction replaceFrom pattern pattern skip characters with
  | case1 => simp
  | case2 skip _ rest ih => rw [ih, List.drop_succ_cons]
  | case3 character rest begins ih =>
      rcases List.exists_cons_of_ne_nil some with ⟨first, others, rfl⟩
      rcases List.isPrefixOf_iff_prefix.mp begins with ⟨after, split⟩
      obtain ⟨rfl, rfl⟩ := List.cons.inj split
      rw [ih, List.drop_zero, List.length_cons, Nat.add_sub_cancel]
      exact congrArg (first :: others ++ ·) (List.drop_left)
  | case4 character rest _ ih => rw [ih, List.drop_zero, List.drop_zero]

theorem le_length_replaceFrom (some : pattern ≠ [])
    (longer : pattern.length ≤ replacement.length) (skip : Nat) (characters : List Char) :
    characters.length - skip ≤ (replaceFrom pattern replacement skip characters).length := by
  have filled := List.length_pos_iff.mpr some
  fun_induction replaceFrom pattern replacement skip characters with
  | case1 => simp
  | case2 skip _ rest ih =>
      rw [List.length_cons]
      omega
  | case3 character rest begins ih =>
      rw [List.length_append, List.length_cons]
      omega
  | case4 character rest _ ih =>
      simp only [List.length_cons]
      omega

/-- Where the pattern occurs, a longer replacement makes more characters. -/
theorem length_lt_replaceFrom (some : pattern ≠ []) (longer : pattern.length < replacement.length)
    (occurs : pattern <:+: characters) :
    characters.length < (replaceFrom pattern replacement 0 characters).length := by
  have filled := List.length_pos_iff.mpr some
  induction characters with
  | nil => exact absurd (List.infix_nil.mp occurs) some
  | cons character rest ih =>
      by_cases begins : pattern <+: character :: rest
      · have remaining := le_length_replaceFrom some (Nat.le_of_lt longer) (pattern.length - 1) rest
        rw [replaceFrom_of_begins begins, List.length_append, List.length_cons]
        omega
      · have more := ih ((List.infix_cons_iff.mp occurs).resolve_left begins)
        rw [replaceFrom_of_not_begins begins]
        simpa using more

/-- Nothing changes exactly when the pattern does not occur or is put in for itself. -/
theorem replaceFrom_eq_self_iff (some : pattern ≠ []) :
    replaceFrom pattern replacement 0 characters = characters
      ↔ (pattern <:+: characters → replacement = pattern) := by
  constructor
  · intro same occurs
    rcases Nat.lt_trichotomy replacement.length pattern.length with shorter | equal | longer
    · have fewer := length_replaceFrom_lt shorter occurs
      rw [same] at fewer
      exact absurd fewer (Nat.lt_irrefl _)
    · induction characters with
      | nil => exact absurd (List.infix_nil.mp occurs) some
      | cons character rest ih =>
          by_cases begins : pattern <+: character :: rest
          · rw [replaceFrom_of_begins begins] at same
            rcases begins with ⟨after, split⟩
            exact (List.append_inj (same.trans split.symm) equal).1
          · rw [replaceFrom_of_not_begins begins] at same
            exact ih (List.cons.inj same).2 ((List.infix_cons_iff.mp occurs).resolve_left begins)
    · have more := length_lt_replaceFrom some longer occurs
      rw [same] at more
      exact absurd more (Nat.lt_irrefl _)
  · intro itself
    by_cases occurs : pattern <:+: characters
    · rw [itself occurs, replaceFrom_self some, List.drop_zero]
    · exact replaceFrom_of_not_infix occurs

end TypedSheets.Text
