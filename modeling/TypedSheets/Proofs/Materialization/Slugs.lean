import TypedSheets.Conversion.Materialization
import TypedSheets.Proofs.Numeral.Reading
import TypedSheets.Proofs.Text.Pieces

/-!
# Slugs

A slug keeps the word characters of a text, and has one hyphen between two of them where there
were others. What follows a text is kept as it is when it has only word characters, and single
hyphens between them; so numerals that each have an underscore before them can be read off the
end of a slug, minus signs included, whatever the text before them is.
-/

namespace TypedSheets

namespace Materialization

open Text Numeral

variable {character : Char}

/-! ## Characters of a slug -/

/-- What a character of a text is in its slug, where it is kept. -/
def slugged (character : Char) : Char :=
  if isAlphanumeric character || character == '_' then character else '-'

/-- Characters without the hyphens at their ends and next to another. -/
def collapse (characters : List Char) : List Char :=
  ['-'].intercalate ((splitChars '-' characters).filter (· ≠ []))

theorem toList_slug (name : String) : (slug name).toList = collapse (name.toList.map slugged) := by
  rw [slug, String.toList_ofList]
  rfl

theorem slugged_ne_slash (character : Char) : slugged character ≠ '/' := by
  have other : isAlphanumeric '/' = false := by decide +kernel
  intro slash
  rw [slugged] at slash
  split at slash
  · next kept =>
      rw [slash, other] at kept
      cases kept
  · exact absurd slash (by decide)

theorem slash_notMem_slug (name : String) : '/' ∉ (slug name).toList := by
  have free : '/' ∉ name.toList.map slugged := by
    rw [List.mem_map, not_exists]
    rintro character ⟨_, slash⟩
    exact slugged_ne_slash character slash
  rw [toList_slug, collapse]
  apply notMem_intercalate (by decide)
  intro piece member inside
  apply free
  exact mem_of_mem_splitChars (List.mem_of_mem_filter member) inside

theorem slugged_underscore : slugged '_' = '_' := by simp [slugged]

theorem slugged_hyphen : slugged '-' = '-' := by simp [slugged]

theorem slugged_of_isDigit (isDigit : character.isDigit = true) :
    slugged character = character := by
  have inside : ∀ code < 58, 48 ≤ code → inClass Class.numericBounds code = true := by
    decide +kernel
  rcases bounds_of_isDigit isDigit with ⟨low, high⟩
  have numeric : isAlphanumeric character = true := by
    rw [isAlphanumeric, inside _ (Nat.lt_succ_of_le high) low, Bool.or_true]
  simp [slugged, numeric]

/-! ## What follows a text -/

theorem filter_eq_self_of_whole {pieces : List (List Char)} (whole : ∀ piece ∈ pieces, piece ≠ []) :
    pieces.filter (· ≠ []) = pieces := by
  rw [List.filter_eq_self]
  intro piece member
  exact decide_eq_true (whole piece member)

theorem ne_nil_of_mem_attach {front : List Char} {pieces : List (List Char)} (some : front ≠ [])
    (others : ∀ piece ∈ pieces.tail, piece ≠ []) : ∀ piece ∈ attach front pieces, piece ≠ [] := by
  intro piece member
  cases pieces with
  | nil =>
      rw [attach, List.mem_singleton] at member
      exact member ▸ some
  | cons first pieces =>
      rw [attach, List.mem_cons] at member
      rcases member with rfl | later
      · simp [some]
      · exact others piece later

/-- What follows a text is kept when it has single hyphens, and none at its ends. -/
theorem exists_collapse_append (front : List Char) :
    ∃ kept, ∀ back, (∀ piece ∈ splitChars '-' back, piece ≠ []) →
      collapse (front ++ back) = kept ++ back := by
  rcases exists_splitChars_append '-' front with ⟨pieces, last, split⟩
  refine ⟨['-'].intercalate (pieces.filter (· ≠ []) ++ [last]), fun back whole => ?_⟩
  have filled := splitChars_ne_nil '-' back
  have attached : ∀ piece ∈ attach last (splitChars '-' back), piece ≠ [] := by
    rcases List.exists_cons_of_ne_nil filled with ⟨first, others, found⟩
    rw [found] at whole ⊢
    rcases List.forall_mem_cons.mp whole with ⟨some, later⟩
    exact List.forall_mem_cons.mpr ⟨List.append_ne_nil_of_right_ne_nil last some, later⟩
  rw [collapse, split, List.filter_append, filter_eq_self_of_whole attached,
    intercalate_append_attach ['-'] _ last filled, intercalate_splitChars]

/-! ## Numerals -/

/-- Numerals, each with an underscore before it. -/
def numerals (words : List Int) : List Char := words.flatMap fun word => '_' :: writeInt word

theorem notMem_toDigits {value : Nat} (noDigit : character.isDigit = false) :
    character ∉ Nat.toDigits 10 value := by
  intro member
  rw [Nat.isDigit_of_mem_toDigits (by decide) (by decide) member] at noDigit
  cases noDigit

theorem underscore_notMem_writeInt (word : Int) : '_' ∉ writeInt word := by
  have free : '_' ∉ Nat.toDigits 10 word.natAbs := notMem_toDigits (by decide)
  rw [writeInt]
  split
  · simp [free]
  · exact free

theorem slugged_of_mem_writeInt {word : Int} (member : character ∈ writeInt word) :
    slugged character = character := by
  have digit : character ∈ Nat.toDigits 10 word.natAbs → slugged character = character :=
    fun inside => slugged_of_isDigit (Nat.isDigit_of_mem_toDigits (by decide) (by decide) inside)
  rw [writeInt] at member
  split at member
  · rcases List.mem_cons.mp member with rfl | inside
    · exact slugged_hyphen
    · exact digit inside
  · exact digit member

theorem map_slugged_numerals (words : List Int) : (numerals words).map slugged = numerals words := by
  have kept : ∀ character ∈ numerals words, slugged character = character := by
    intro character member
    rcases List.mem_flatMap.mp member with ⟨word, _, inside⟩
    rcases List.mem_cons.mp inside with rfl | within
    · exact slugged_underscore
    · exact slugged_of_mem_writeInt within
  rw [List.map_congr_left kept, List.map_id']

/-- A numeral after an underscore has a hyphen at most behind the underscore. -/
theorem ne_nil_of_mem_splitChars_numeral (word : Int) {rest : List Char}
    (others : ∀ piece ∈ (splitChars '-' rest).tail, piece ≠ []) :
    ∀ piece ∈ splitChars '-' ('_' :: writeInt word ++ rest), piece ≠ [] := by
  have free : '-' ∉ Nat.toDigits 10 word.natAbs := notMem_toDigits (by decide)
  have some : Nat.toDigits 10 word.natAbs ≠ [] := Nat.toDigits_ne_nil
  rw [writeInt]
  split
  · have marked : splitChars '-' ('_' :: '-' :: Nat.toDigits 10 word.natAbs ++ rest)
        = ['_'] :: attach (Nat.toDigits 10 word.natAbs) (splitChars '-' rest) := by
      rw [← splitChars_append_of_not_mem free]
      exact splitChars_append_cons ['_'] _
    rw [marked]
    exact List.forall_mem_cons.mpr ⟨List.cons_ne_nil _ _, ne_nil_of_mem_attach some others⟩
  · have unmarked : '-' ∉ '_' :: Nat.toDigits 10 word.natAbs := by simp [free]
    rw [splitChars_append_of_not_mem unmarked]
    exact ne_nil_of_mem_attach (List.cons_ne_nil _ _) others

theorem ne_nil_of_mem_tail_splitChars_numerals (words : List Int) :
    ∀ piece ∈ (splitChars '-' (numerals words)).tail, piece ≠ [] := by
  induction words with
  | nil => simp [numerals]
  | cons word words ih =>
      intro piece member
      exact ne_nil_of_mem_splitChars_numeral word ih piece (List.mem_of_mem_tail member)

theorem ne_nil_of_mem_splitChars_numerals {words : List Int} (some : words ≠ []) :
    ∀ piece ∈ splitChars '-' (numerals words), piece ≠ [] := by
  rcases List.exists_cons_of_ne_nil some with ⟨word, others, rfl⟩
  exact ne_nil_of_mem_splitChars_numeral word (ne_nil_of_mem_tail_splitChars_numerals others)

/-- Numerals are apart at the underscores between them. -/
theorem splitChars_numerals (words : List Int) :
    splitChars '_' (numerals words) = [] :: words.map writeInt := by
  induction words with
  | nil => rfl
  | cons word words ih =>
      have cut : numerals (word :: words) = '_' :: (writeInt word ++ numerals words) := rfl
      rw [cut, splitChars, if_pos rfl, splitChars_append_of_not_mem (underscore_notMem_writeInt word), ih]
      simp [attach]

theorem writeInt_inj {left right : Int} : writeInt left = writeInt right ↔ left = right := by
  constructor
  · intro same
    have read := integer?_writeInt left
    rw [same, integer?_writeInt] at read
    exact (Option.some.inj read).symm
  · exact congrArg writeInt

theorem numerals_inj {left right : List Int} : numerals left = numerals right ↔ left = right := by
  constructor
  · intro same
    have pieces := congrArg (splitChars '_') same
    rw [splitChars_numerals, splitChars_numerals] at pieces
    exact (List.map_injective_iff.mpr fun _ _ => writeInt_inj.mp) (List.cons.inj pieces).2
  · exact congrArg numerals

/-- Numerals can be read off the end of a slug. -/
theorem slug_numerals_inj (front : String) {left right : List Int} (someLeft : left ≠ [])
    (someRight : right ≠ []) :
    slug (front ++ String.ofList (numerals left)) = slug (front ++ String.ofList (numerals right))
      ↔ left = right := by
  rcases exists_collapse_append (front.toList.map slugged) with ⟨kept, ends⟩
  have read : ∀ words, words ≠ [] →
      (slug (front ++ String.ofList (numerals words))).toList = kept ++ numerals words := by
    intro words some
    rw [toList_slug, String.toList_append, String.toList_ofList, List.map_append,
      map_slugged_numerals, ends _ (ne_nil_of_mem_splitChars_numerals some)]
  rw [← String.toList_inj, read left someLeft, read right someRight, List.append_cancel_left_eq,
    numerals_inj]

end Materialization

end TypedSheets
