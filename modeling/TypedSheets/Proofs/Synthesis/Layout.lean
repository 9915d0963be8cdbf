import TypedSheets.Proofs.Text.Replacement
import TypedSheets.Synthesis.Template

/-!
# Layouts of templates

Read once from the left, a template is literal text with placeholders in between. A layout is
spaced if its literals keep the placeholders apart whatever is put in for them: then replacing
one placeholder everywhere replaces it in what stands for each placeholder, and nowhere else.
-/

namespace TypedSheets.Synthesis

variable {name other : String} {names : List String} {literal : List Char}

/-- The characters of the placeholder of a name. -/
def mark (name : String) : List Char := (Template.placeholder name).toList

theorem mark_eq (name : String) : mark name = '%' :: (name.toList ++ ['%']) := by
  simp [mark, Template.placeholder]

theorem mark_ne_nil (name : String) : mark name ≠ [] := by
  rw [mark_eq]
  exact List.cons_ne_nil _ _

/-- The placeholder of a name without a percent sign holds no placeholder of another name. -/
theorem eq_of_mark_inside (plain : '%' ∉ other.toList) (inside : mark name <:+: mark other) :
    name = other := by
  rw [mark_eq, mark_eq] at inside
  rcases List.infix_cons_iff.mp inside with begins | later
  · have closed := (List.cons_prefix_cons.mp begins).2
    rcases List.prefix_concat_iff.mp closed with same | within
    · exact String.toList_injective (List.append_cancel_right same)
    · exact absurd (within.subset (List.mem_append_right _ List.mem_cons_self)) plain
  · have fewer := later.sublist.count_le '%'
    rw [List.count_cons_self, List.count_append, List.count_append, List.count_eq_zero.mpr plain]
      at fewer
    simp at fewer

/-- A text as its placeholders and the literal text around them. -/
inductive Layout where
  | last (literal : List Char)
  | token (literal : List Char) (name : String) (rest : Layout)

namespace Layout

/-- The text with something put in for each placeholder. -/
def fill (value : String → List Char) : Layout → List Char
  | last literal => literal
  | token literal name rest => literal ++ (value name ++ rest.fill value)

/-- The layout with one more character at its beginning. -/
def prepend (character : Char) : Layout → Layout
  | last literal => last (character :: literal)
  | token literal name rest => token (character :: literal) name rest

/-- The layout of a text, read from the left; `skip` characters of the placeholder just found are
still to be passed over. -/
def scan (names : List String) : Nat → List Char → Layout
  | _, [] => last []
  | skip + 1, _ :: rest => scan names skip rest
  | 0, character :: rest =>
      match names.find? fun name => (mark name).isPrefixOf (character :: rest) with
      | some name => token [] name (scan names ((mark name).length - 1) rest)
      | none => (scan names 0 rest).prepend character

@[simp] theorem fill_prepend (value : String → List Char) (character : Char) (layout : Layout) :
    (layout.prepend character).fill value = character :: layout.fill value := by
  cases layout <;> rfl

/-- The placeholders make up the text that was read. -/
theorem fill_mark_scan (names : List String) (skip : Nat) (characters : List Char) :
    (scan names skip characters).fill mark = characters.drop skip := by
  fun_induction scan names skip characters with
  | case1 => simp [fill]
  | case2 skip _ rest ih => rw [ih, List.drop_succ_cons]
  | case3 character rest name found ih =>
      have test := List.find?_some found
      have begins := List.isPrefixOf_iff_prefix.mp test
      have passed : rest.drop ((mark name).length - 1)
          = (character :: rest).drop (mark name).length := by
        rcases List.exists_cons_of_ne_nil (mark_ne_nil name) with ⟨first, others, cut⟩
        rw [cut, List.length_cons, Nat.add_sub_cancel, List.drop_succ_cons]
      rw [fill, ih, passed, List.nil_append, List.drop_zero]
      exact List.prefix_iff_eq_append.mp begins
  | case4 character rest _ ih => rw [fill_prepend, ih, List.drop_zero, List.drop_zero]

theorem scan_of_length_le (names : List String) {skip : Nat} {characters : List Char}
    (within : characters.length ≤ skip) : scan names skip characters = last [] := by
  induction characters generalizing skip with
  | nil => rfl
  | cons character characters ih =>
      cases skip with
      | zero => cases within
      | succ skip => exact ih (Nat.le_of_succ_le_succ within)

/-- A placeholder alone is a layout of its own. -/
theorem scan_mark (plain : ∀ name ∈ names, '%' ∉ name.toList) (listed : name ∈ names) :
    scan names 0 (mark name) = token [] name (last []) := by
  have found : (names.find? fun other => (mark other).isPrefixOf (mark name)) = some name := by
    cases search : names.find? fun other => (mark other).isPrefixOf (mark name) with
    | none =>
        have test := List.find?_eq_none.mp search name listed
        exact absurd (List.isPrefixOf_iff_prefix.mpr List.prefix_rfl) test
    | some other =>
        have test := List.find?_some search
        have begins := List.isPrefixOf_iff_prefix.mp test
        rw [eq_of_mark_inside (plain name listed) begins.isInfix]
  rcases List.exists_cons_of_ne_nil (mark_ne_nil name) with ⟨character, rest, cut⟩
  have passed : scan names ((mark name).length - 1) rest = last [] := by
    apply scan_of_length_le
    rw [cut, List.length_cons, Nat.add_sub_cancel]
  rw [cut] at found ⊢
  rw [scan, found]
  exact congrArg (token [] name) passed

/-! ## Spaced layouts -/

/-- No placeholder begins in a literal. -/
def StartsNone (names : List String) (literal : List Char) : Prop :=
  ∀ name ∈ names, ∀ ending ∈ literal.tails, ending ≠ [] →
    ¬mark name <+: ending ∧ ¬ending <+: mark name

/-- No placeholder that begins before a literal ends in it. -/
def EndsNone (names : List String) (literal : List Char) : Prop :=
  ∀ name ∈ names, ∀ ending ∈ (mark name).tail.tails, ending ≠ [] → ¬ending <+: literal

/-- No placeholder that begins before a literal goes on behind it. -/
def PassesNone (names : List String) (literal : List Char) : Prop :=
  ∀ name ∈ names, ∀ ending ∈ (mark name).tail.tails, ending ≠ [] → ¬literal <+: ending

/-- What may come after a placeholder. -/
def Follows (names : List String) : Layout → Prop
  | last literal => EndsNone names literal
  | token literal _ _ => EndsNone names literal ∧ PassesNone names literal

/-- Whether the literals keep the placeholders apart, whatever is put in for them. -/
def Spaced (names : List String) : Layout → Prop
  | last literal => ∀ name ∈ names, ¬mark name <:+: literal
  | token literal name rest =>
      name ∈ names ∧ StartsNone names literal ∧ rest.Follows names ∧ rest.Spaced names

instance (names : List String) (literal : List Char) : Decidable (StartsNone names literal) :=
  inferInstanceAs (Decidable (∀ name ∈ names, ∀ ending ∈ literal.tails, ending ≠ [] →
    ¬mark name <+: ending ∧ ¬ending <+: mark name))

instance (names : List String) (literal : List Char) : Decidable (EndsNone names literal) :=
  inferInstanceAs (Decidable (∀ name ∈ names, ∀ ending ∈ (mark name).tail.tails, ending ≠ [] →
    ¬ending <+: literal))

instance (names : List String) (literal : List Char) : Decidable (PassesNone names literal) :=
  inferInstanceAs (Decidable (∀ name ∈ names, ∀ ending ∈ (mark name).tail.tails, ending ≠ [] →
    ¬literal <+: ending))

instance decidableFollows (names : List String) :
    (layout : Layout) → Decidable (layout.Follows names)
  | last literal => inferInstanceAs (Decidable (EndsNone names literal))
  | token literal _ _ =>
      inferInstanceAs (Decidable (EndsNone names literal ∧ PassesNone names literal))

instance decidableSpaced (names : List String) :
    (layout : Layout) → Decidable (layout.Spaced names)
  | last literal => inferInstanceAs (Decidable (∀ name ∈ names, ¬mark name <:+: literal))
  | token literal name rest =>
      have := decidableSpaced names rest
      inferInstanceAs (Decidable (name ∈ names ∧ StartsNone names literal ∧ rest.Follows names
        ∧ rest.Spaced names))

theorem StartsNone.apart (starts : StartsNone names literal) (listed : name ∈ names)
    (right : List Char) : Text.Apart (mark name) literal right := by
  intro ending closes some occurs
  rcases starts name listed ending ((List.mem_tails _ _).mpr closes) some with ⟨within, beyond⟩
  rcases Text.prefix_append_cases occurs with begins | ⟨rest, -, split⟩
  · exact absurd begins within
  · exact absurd ⟨rest, split⟩ beyond

theorem StartsNone.absent (starts : StartsNone names literal) (listed : name ∈ names) :
    ¬mark name <:+: literal := by
  intro inside
  rcases List.infix_iff_prefix_suffix.mp inside with ⟨ending, begins, closes⟩
  have some : ending ≠ [] := by
    rintro rfl
    exact mark_ne_nil name (List.prefix_nil.mp begins)
  exact (starts name listed ending ((List.mem_tails _ _).mpr closes) some).1 begins

/-- No placeholder lies across the beginning of what may come after one. -/
theorem Follows.apart {layout : Layout} (follows : layout.Follows names) (listed : name ∈ names)
    (left : List Char) (value : String → List Char) :
    Text.Apart (mark name) left (layout.fill value) := by
  intro ending closes some occurs
  rcases Text.prefix_append_cases occurs with begins | ⟨across, goesOn, split⟩
  · exact begins
  · by_cases none : across = []
    · rw [none, List.append_nil] at split
      rw [split]
    · have member : across ∈ (mark name).tail.tails := by
        rcases List.exists_cons_of_ne_nil some with ⟨first, others, rfl⟩
        rw [List.mem_tails, ← split]
        exact List.suffix_append others across
      cases layout with
      | last literal => exact absurd goesOn (follows name listed across member none)
      | token literal _ rest =>
          rcases Text.prefix_append_cases goesOn with ends | ⟨behind, -, passes⟩
          · exact absurd ends (follows.1 name listed across member none)
          · exact absurd ⟨behind, passes⟩ (follows.2 name listed across member none)

/-- In a spaced layout a placeholder is replaced in what stands for each placeholder. -/
theorem Spaced.replaceFrom_fill {layout : Layout} (spaced : layout.Spaced names)
    (listed : name ∈ names) (replacement : List Char) (value : String → List Char) :
    Text.replaceFrom (mark name) replacement 0 (layout.fill value)
      = layout.fill fun other => Text.replaceFrom (mark name) replacement 0 (value other) := by
  induction layout with
  | last literal => exact Text.replaceFrom_of_not_infix (spaced name listed)
  | token literal other rest ih =>
      rcases spaced with ⟨-, starts, follows, spacedRest⟩
      rw [fill, Text.replaceFrom_append (starts.apart listed _) (Nat.zero_le _),
        Text.replaceFrom_of_not_infix (starts.absent listed),
        Text.replaceFrom_append (follows.apart listed _ _) (Nat.zero_le _), ih spacedRest, fill]

theorem Spaced.fill_congr {layout : Layout} (spaced : layout.Spaced names)
    {first second : String → List Char} (same : ∀ name ∈ names, first name = second name) :
    layout.fill first = layout.fill second := by
  induction layout with
  | last => rfl
  | token literal name rest ih =>
      rcases spaced with ⟨listed, -, -, spacedRest⟩
      rw [fill, fill, same name listed, ih spacedRest]

theorem spaced_mark (names : List String) (listed : name ∈ names) :
    (token [] name (last [])).Spaced names := by
  refine ⟨listed, ?_, ?_, ?_⟩
  · intro _ _ ending closes some
    exact absurd (List.suffix_nil.mp ((List.mem_tails _ _).mp closes)) some
  · intro _ _ _ _ some ends
    exact some (List.prefix_nil.mp ends)
  · intro other _ inside
    exact mark_ne_nil other (List.infix_nil.mp inside)

end Layout

end TypedSheets.Synthesis
