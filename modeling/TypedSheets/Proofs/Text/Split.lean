import TypedSheets.Text.Split

/-!
# Pieces, endings and patterns

Cutting characters at a separator undoes joining them. An ending is taken off as often as a text
closes with it. A replacement that is shorter than its pattern leaves exactly those characters
alone in which the pattern does not occur.
-/

namespace TypedSheets.Text

/-! ## Pieces -/

variable {separator : Char}

theorem splitChars_of_not_mem {piece : List Char} (free : separator ∉ piece) :
    splitChars separator piece = [piece] := by
  induction piece with
  | nil => rfl
  | cons character piece ih =>
      have different : character ≠ separator := fun same => free (same ▸ List.mem_cons_self)
      have rest := ih fun member => free (List.mem_cons_of_mem _ member)
      simp [splitChars, different, rest]

/-- A separator divides the pieces before it from those after it. -/
theorem splitChars_append_cons (before after : List Char) :
    splitChars separator (before ++ separator :: after)
      = splitChars separator before ++ splitChars separator after := by
  induction before with
  | nil => simp [splitChars]
  | cons character before ih =>
      by_cases here : character = separator
      · simp [splitChars, here, ih]
      · rcases List.exists_cons_of_ne_nil (splitChars_ne_nil separator before) with
          ⟨piece, pieces, found⟩
        simp [splitChars, here, ih, found]

/-- Pieces that were joined by a separator that is in none of them come back. -/
theorem splitChars_intercalate {pieces : List (List Char)}
    (free : ∀ piece ∈ pieces, separator ∉ piece) (some : pieces ≠ []) :
    splitChars separator ([separator].intercalate pieces) = pieces := by
  induction pieces with
  | nil => exact absurd rfl some
  | cons piece pieces ih =>
      have first := free piece List.mem_cons_self
      cases pieces with
      | nil => simp [splitChars_of_not_mem first]
      | cons next pieces =>
          have rest := ih (fun other member => free other (List.mem_cons_of_mem _ member))
            (List.cons_ne_nil _ _)
          rw [List.intercalate_cons_cons, List.append_assoc, List.singleton_append,
            splitChars_append_cons, splitChars_of_not_mem first, rest, List.singleton_append]

theorem notMem_intercalate {character : Char} {pieces : List (List Char)}
    (different : character ≠ separator) (free : ∀ piece ∈ pieces, character ∉ piece) :
    character ∉ [separator].intercalate pieces := by
  induction pieces with
  | nil => simp
  | cons piece pieces ih =>
      rcases List.forall_mem_cons.mp free with ⟨first, others⟩
      cases pieces with
      | nil => simpa using first
      | cons following pieces =>
          rw [List.intercalate_cons_cons]
          simp [first, different, ih others]

theorem intercalate_splitChars (separator : Char) (characters : List Char) :
    [separator].intercalate (splitChars separator characters) = characters := by
  induction characters with
  | nil => rfl
  | cons character characters ih =>
      have filled := splitChars_ne_nil separator characters
      rw [splitChars]
      split
      · next here =>
          rw [List.intercalate_cons_of_ne_nil filled, ih, here]
          rfl
      · rcases List.exists_cons_of_ne_nil filled with ⟨piece, pieces, found⟩
        rw [found] at ih ⊢
        cases pieces with
        | nil => simpa using ih
        | cons following pieces => simpa [List.intercalate_cons_cons] using ih

/-- Cutting adds no characters. -/
theorem mem_of_mem_splitChars {character : Char} {piece characters : List Char}
    (listed : piece ∈ splitChars separator characters) (inside : character ∈ piece) :
    character ∈ characters := by
  induction characters generalizing piece with
  | nil =>
      rw [splitChars_nil, List.mem_singleton] at listed
      rwa [listed] at inside
  | cons first characters ih =>
      rw [splitChars] at listed
      split at listed
      · rcases List.mem_cons.mp listed with rfl | later
        · cases inside
        · exact List.mem_cons_of_mem _ (ih later inside)
      · rcases List.exists_cons_of_ne_nil (splitChars_ne_nil separator characters) with
          ⟨begins, pieces, found⟩
        rw [found] at listed ih
        rcases List.mem_cons.mp listed with rfl | later
        · rcases List.mem_cons.mp inside with rfl | within
          · exact List.mem_cons_self
          · exact List.mem_cons_of_mem _ (ih List.mem_cons_self within)
        · exact List.mem_cons_of_mem _ (ih (List.mem_cons_of_mem _ later) inside)

theorem splitLast?_of_not_mem {characters : List Char} (free : separator ∉ characters) :
    splitLast? separator characters = none := by
  induction characters with
  | nil => rfl
  | cons character characters ih =>
      have different : character ≠ separator := fun same => free (same ▸ List.mem_cons_self)
      have rest := ih fun member => free (List.mem_cons_of_mem _ member)
      simp [splitLast?, different, rest]

/-- The last separator is the one after which there is none. -/
theorem splitLast?_append_cons (before : List Char) {after : List Char}
    (free : separator ∉ after) :
    splitLast? separator (before ++ separator :: after) = some (before, after) := by
  induction before with
  | nil => simp [splitLast?, splitLast?_of_not_mem free]
  | cons character before ih => simp [splitLast?, ih]

/-- The two parts at the last separator make up the characters. -/
theorem eq_append_of_splitLast? {characters before after : List Char}
    (found : splitLast? separator characters = some (before, after)) :
    characters = before ++ separator :: after := by
  induction characters generalizing before after with
  | nil => cases found
  | cons character characters ih =>
      rw [splitLast?] at found
      split at found
      · next earlier _ deeper =>
          obtain ⟨rfl, rfl⟩ := Prod.mk.inj (Option.some.inj found)
          rw [ih deeper, List.cons_append]
      · split at found
        · next same =>
            obtain ⟨rfl, rfl⟩ := Prod.mk.inj (Option.some.inj found)
            rw [same, List.nil_append]
        · cases found

/-- No separator is after the last one. -/
theorem notMem_afterLast (separator : Char) (characters : List Char) :
    separator ∉ afterLast separator characters := by
  induction characters with
  | nil => exact List.not_mem_nil
  | cons character characters ih =>
      rw [afterLast] at ih ⊢
      rw [splitLast?]
      cases found : splitLast? separator characters with
      | some parts =>
          rw [found] at ih
          exact ih
      | none =>
          rw [found] at ih
          by_cases same : character = separator
          · rw [if_pos same]
            exact ih
          · rw [if_neg same]
            exact List.not_mem_cons_of_ne_of_not_mem (Ne.symm same) ih

/-! ## Endings -/

section Endings

variable {ending characters rest : List Char}

@[simp] theorem stripSuffix?_append (characters ending : List Char) :
    stripSuffix? ending (characters ++ ending) = some characters := by
  simp [stripSuffix?]

theorem eq_append_of_stripSuffix? (found : stripSuffix? ending characters = some rest) :
    characters = rest ++ ending := by
  rcases Option.map_eq_some_iff.mp found with ⟨reversed, stripped, rfl⟩
  rw [← List.reverse_inj, List.reverse_append, List.reverse_reverse]
  exact eq_append_of_stripPrefix? stripped

/-- There is something before an ending exactly where the text has it. -/
theorem stripSuffix?_eq_none_iff :
    stripSuffix? ending characters = none ↔ ¬ending <:+ characters := by
  constructor
  · rintro absent ⟨front, rfl⟩
    simp at absent
  · intro differs
    rw [Option.eq_none_iff_forall_ne_some]
    intro rest found
    exact differs ⟨rest, (eq_append_of_stripSuffix? found).symm⟩

/-- Only copies of the ending are taken off. -/
theorem exists_dropEndings (ending : List Char) (count : Nat) (characters : List Char) :
    ∃ times, characters
      = dropEndings ending count characters ++ (List.replicate times ending).flatten := by
  fun_induction dropEndings ending count characters with
  | case1 characters => exact ⟨0, (List.append_nil _).symm⟩
  | case2 count characters rest found ih =>
      rcases ih with ⟨times, split⟩
      refine ⟨times + 1, ?_⟩
      rw [List.replicate_succ', List.flatten_concat, ← List.append_assoc, ← split]
      exact eq_append_of_stripSuffix? found
  | case3 count characters absent => exact ⟨0, (List.append_nil _).symm⟩

/-- All of them are taken off, as there are no more of them than characters. -/
theorem not_suffix_dropEndings (visible : ending ≠ []) {count : Nat}
    (enough : characters.length ≤ count) : ¬ending <:+ dropEndings ending count characters := by
  fun_induction dropEndings ending count characters with
  | case1 characters =>
      rw [List.eq_nil_of_length_eq_zero (Nat.le_zero.mp enough), List.suffix_nil]
      exact visible
  | case2 count characters rest found ih =>
      apply ih
      have length := congrArg List.length (eq_append_of_stripSuffix? found)
      have some := List.length_pos_iff.mpr visible
      rw [List.length_append] at length
      omega
  | case3 count characters absent => exact stripSuffix?_eq_none_iff.mp absent

/-- Whether a text is what copies of an ending leave of another one when all that close it are
taken off. -/
structure TrimmedOf (ending whole rest : String) : Prop where
  taken : ∃ times, whole.toList = rest.toList ++ (List.replicate times ending.toList).flatten
  bare : ¬ending.toList <:+ rest.toList

theorem trimmedOf_trimEndings {ending : String} (visible : ending ≠ "") (whole : String) :
    TrimmedOf ending whole (trimEndings ending whole) := by
  constructor
  case taken =>
    rw [trimEndings, String.toList_ofList]
    exact exists_dropEndings _ _ _
  case bare =>
    rw [trimEndings, String.toList_ofList]
    exact not_suffix_dropEndings (by simpa using visible) (Nat.le_of_eq String.length_toList)

end Endings

/-! ## Patterns -/

variable {pattern replacement characters : List Char}

theorem replaceFrom_of_begins {character : Char} {rest : List Char}
    (begins : pattern <+: character :: rest) :
    replaceFrom pattern replacement 0 (character :: rest)
      = replacement ++ replaceFrom pattern replacement (pattern.length - 1) rest := by
  simp [replaceFrom, begins]

theorem replaceFrom_of_not_begins {character : Char} {rest : List Char}
    (differs : ¬pattern <+: character :: rest) :
    replaceFrom pattern replacement 0 (character :: rest)
      = character :: replaceFrom pattern replacement 0 rest := by
  simp [replaceFrom, differs]

theorem length_replaceFrom_le (shorter : replacement.length ≤ pattern.length) (skip : Nat)
    (characters : List Char) :
    (replaceFrom pattern replacement skip characters).length ≤ characters.length - skip := by
  fun_induction replaceFrom pattern replacement skip characters with
  | case1 => simp
  | case2 skip _ rest ih =>
      rw [List.length_cons]
      omega
  | case3 character rest begins ih =>
      have within := (List.isPrefixOf_iff_prefix.mp begins).length_le
      simp only [List.length_append, List.length_cons] at within ⊢
      omega
  | case4 character rest _ ih =>
      simp only [List.length_cons]
      omega

/-- Characters without the pattern stay as they are. -/
theorem replaceFrom_of_not_infix (absent : ¬pattern <:+: characters) :
    replaceFrom pattern replacement 0 characters = characters := by
  induction characters with
  | nil => rfl
  | cons character rest ih =>
      rw [List.infix_cons_iff, not_or] at absent
      rw [replaceFrom_of_not_begins absent.1, ih absent.2]

/-- Where the pattern occurs, a shorter replacement leaves fewer characters. -/
theorem length_replaceFrom_lt (shorter : replacement.length < pattern.length)
    (occurs : pattern <:+: characters) :
    (replaceFrom pattern replacement 0 characters).length < characters.length := by
  induction characters with
  | nil =>
      rw [List.infix_nil.mp occurs] at shorter
      simp at shorter
  | cons character rest ih =>
      by_cases begins : pattern <+: character :: rest
      · have remaining := length_replaceFrom_le (Nat.le_of_lt shorter) (pattern.length - 1) rest
        have within := begins.length_le
        rw [replaceFrom_of_begins begins]
        simp only [List.length_append, List.length_cons] at within ⊢
        omega
      · have fewer := ih ((List.infix_cons_iff.mp occurs).resolve_left begins)
        rw [replaceFrom_of_not_begins begins]
        simpa using fewer

end TypedSheets.Text
