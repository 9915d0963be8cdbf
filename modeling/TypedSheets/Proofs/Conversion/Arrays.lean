import TypedSheets.Proofs.Conversion.Blanks
import TypedSheets.Proofs.Types.Resolution

/-!
# Arrays that are written element by element

Reading a text, one stands within quotes or not and some parentheses and brackets deep. A comma
divides elements where one stands within nothing. So texts that end within nothing, and have no
such comma, are the elements of the array literal that they are joined to, and the array has
their values in order. The brackets of the literal may be left out unless the joined texts
would be taken for a literal in brackets themselves.
-/

namespace TypedSheets

namespace Text

variable {characters : List Char} {opening closing : Char}

theorem trimChars_eq_nil_iff :
    trimChars characters = [] ↔ ∀ character ∈ characters, isBlank character = true := by
  constructor
  · intro empty
    rcases exists_blanks_trimChars characters with ⟨front, back, before, after, split⟩
    rw [empty, List.append_nil] at split
    rw [split]
    exact List.forall_mem_append.mpr ⟨before, after⟩
  · exact trimChars_eq_nil

theorem trimChars_ne_nil_of_blank {text : String} (shown : blank text = false) :
    trimChars text.toList ≠ [] := by
  intro empty
  have every : blank text = true := List.all_eq_true.mpr (trimChars_eq_nil_iff.mp empty)
  rw [shown] at every
  cases every

theorem trimChars_enclosed (opens : isBlank opening = false) (closes : isBlank closing = false)
    (inner : List Char) :
    trimChars (opening :: inner ++ [closing]) = opening :: inner ++ [closing] := by
  have starts := trimStart_append_cons opens [] (inner ++ [closing])
  rw [List.nil_append, trimStart_nil, List.nil_append] at starts
  rw [trimChars, List.cons_append, starts, ← List.cons_append, trimEnd_concat closes]

theorem stripPair_enclosed (inner : List Char) :
    stripPair opening closing (opening :: inner ++ [closing]) = inner := by
  have opened : stripPrefix? [opening] (opening :: inner ++ [closing]) = some (inner ++ [closing]) :=
    stripPrefix?_append [opening] (inner ++ [closing])
  rw [stripPair, opened]
  simp only [stripSuffix?_append, Option.getD_some]

/-- A text that is not enclosed stays as it is. -/
theorem stripPair_of_not_enclosed (bare : ∀ inner, characters ≠ opening :: inner ++ [closing]) :
    stripPair opening closing characters = characters := by
  rw [stripPair]
  cases opened : stripPrefix? [opening] characters with
  | none => rfl
  | some rest =>
      cases closed : stripSuffix? [closing] rest with
      | none => simp only [closed, Option.getD_none]
      | some inner =>
          rcases Option.map_eq_some_iff.mp closed with ⟨reversed, stripped, rfl⟩
          have last := eq_append_of_stripPrefix? stripped
          have whole := eq_append_of_stripPrefix? opened
          rw [← List.reverse_inj, List.reverse_reverse] at last
          refine absurd ?_ (bare reversed.reverse)
          rw [whole, last]
          simp

end Text

namespace Literal

open Text

/-- Where one stands in a text: within quotes or not, and how many parentheses and brackets
deep. Those within quotes do not count, and closing ones without opening ones count below
zero. -/
structure Nesting where
  quoted : Bool
  depth : Int
deriving DecidableEq

namespace Nesting

/-- Within no quotes, parentheses and brackets. -/
def closed : Nesting := ⟨false, 0⟩

/-- Where one stands after a further character. -/
def next (nesting : Nesting) (character : Char) : Nesting where
  quoted := nesting.quoted != (character == '"')
  depth :=
    if nesting.quoted then nesting.depth
    else if character == '(' || character == '[' then nesting.depth + 1
    else if character == ')' || character == ']' then nesting.depth - 1
    else nesting.depth

/-- Where one stands after a text. -/
def after (nesting : Nesting) (text : List Char) : Nesting :=
  text.foldl next nesting

/-- Read a further character, if it is not a comma that divides elements. -/
def read? (nesting : Nesting) (character : Char) : Option Nesting :=
  if character = ',' ∧ nesting = closed then none else some (nesting.next character)

theorem read?_blank (nesting : Nesting) (character : Char) (blank : isBlank character = true) :
    nesting.read? character = some nesting := by
  have comma : character ≠ ',' := ne_of_isBlank (by decide) blank
  have quote : character ≠ '"' := ne_of_isBlank (by decide) blank
  have parenthesis : character ≠ '(' := ne_of_isBlank (by decide) blank
  have bracket : character ≠ '[' := ne_of_isBlank (by decide) blank
  have parenthesisEnd : character ≠ ')' := ne_of_isBlank (by decide) blank
  have bracketEnd : character ≠ ']' := ne_of_isBlank (by decide) blank
  have stays : nesting.next character = nesting := by
    rw [next, beq_false_of_ne quote, Bool.bne_false]
    simp [parenthesis, bracket, parenthesisEnd, bracketEnd]
  rw [read?, if_neg fun both => comma both.1, stays]

/-- Whether no comma of a text stands where it divides elements. -/
def Undivided (nesting : Nesting) (text : List Char) : Prop :=
  ∀ front back, text = front ++ ',' :: back → nesting.after front ≠ closed

theorem undivided_cons_iff {nesting : Nesting} {character : Char} {text : List Char} :
    nesting.Undivided (character :: text)
      ↔ ¬(character = ',' ∧ nesting = closed) ∧ (nesting.next character).Undivided text := by
  constructor
  · intro undivided
    refine ⟨?_, ?_⟩
    · rintro ⟨rfl, rfl⟩
      exact undivided [] text rfl rfl
    · rintro front back rfl
      exact undivided (character :: front) back rfl
  · rintro ⟨goesOn, undivided⟩ front back split
    cases front with
    | nil =>
        intro within
        exact goesOn ⟨(List.cons.inj split).1, within⟩
    | cons first front =>
        obtain ⟨rfl, rest⟩ := List.cons.inj split
        exact undivided front back rest

/-- A text is read to its end if no comma of it divides elements. -/
theorem foldlM_read?_eq_some_iff {nesting other : Nesting} {text : List Char} :
    text.foldlM read? nesting = some other ↔ nesting.after text = other ∧ nesting.Undivided text := by
  induction text generalizing nesting with
  | nil => simp [after, Undivided, pure]
  | cons character text ih =>
      rw [List.foldlM_cons, read?, undivided_cons_iff]
      by_cases divides : character = ',' ∧ nesting = closed
      · rw [if_pos divides]
        exact iff_of_false (by simp) fun both => both.2.1 divides
      · rw [if_neg divides]
        exact ih.trans (and_congr Iff.rfl (and_iff_right divides).symm)

end Nesting

/-- Whether a text is one element: it closes its own quotes, parentheses and brackets and has
no comma outside of them. -/
structure IsElement (text : List Char) : Prop where
  closes : Nesting.closed.after text = .closed
  undivided : Nesting.closed.Undivided text

theorem isElement_iff {text : List Char} :
    IsElement text ↔ text.foldlM Nesting.read? .closed = some .closed := by
  rw [Nesting.foldlM_read?_eq_some_iff]
  exact ⟨fun element => ⟨element.closes, element.undivided⟩, fun both => ⟨both.1, both.2⟩⟩

instance (text : List Char) : Decidable (IsElement text) :=
  decidable_of_iff _ isElement_iff.symm

theorem Nesting.eq_closed_iff {nesting : Nesting} :
    nesting = .closed ↔ nesting.quoted = false ∧ nesting.depth = 0 := by
  rw [closed, Nesting.mk.injEq]

theorem Nesting.depth_next (nesting : Nesting) (character : Char) :
    (nesting.next character).depth
      = if (!nesting.quoted && (character == '(' || character == '[')) = true then nesting.depth + 1
        else if (!nesting.quoted && (character == ')' || character == ']')) = true then
          nesting.depth - 1
        else nesting.depth := by
  cases quoted : nesting.quoted <;> simp [next, quoted]

/-- Elements are cut where a comma cannot be read as a part of one. -/
theorem splitTop_eq_splitBy (nesting : Nesting) (text : List Char) :
    splitTop nesting.quoted nesting.depth text = splitBy Nesting.read? nesting text := by
  induction text generalizing nesting with
  | nil => rfl
  | cons character text ih =>
      rw [splitTop, splitBy, Nesting.read?]
      by_cases divides : character = ',' ∧ nesting = .closed
      · rw [if_pos divides, if_pos ⟨divides.1, Nesting.eq_closed_iff.mp divides.2⟩, ih]
      · have goesOn : ¬(character = ',' ∧ nesting.quoted = false ∧ nesting.depth = 0) := by
          rw [← Nesting.eq_closed_iff]
          exact divides
        have following : splitTop (nesting.quoted != (character == '"')) (nesting.next character).depth
            text = splitBy Nesting.read? (nesting.next character) text := ih (nesting.next character)
        rw [Nesting.depth_next] at following
        rw [if_neg divides, if_neg goesOn]
        simp only [following]
        cases splitBy Nesting.read? (nesting.next character) text <;> rfl

theorem elements_eq_map_splitBy (text : List Char) :
    elements text = (splitBy Nesting.read? .closed text).map trimChars :=
  congrArg (List.map trimChars) (splitTop_eq_splitBy .closed text)

theorem elements_trimChars (text : List Char) : elements (trimChars text) = elements text := by
  rw [elements_eq_map_splitBy, elements_eq_map_splitBy,
    map_trimChars_splitBy_trimChars Nesting.read?_blank]

/-- Elements that are joined by commas are the elements of the joined text. -/
theorem elements_intercalate {texts : List (List Char)} (nonempty : texts ≠ [])
    (each : ∀ text ∈ texts, IsElement text) :
    elements ([','].intercalate texts) = texts.map trimChars := by
  rw [elements_eq_map_splitBy, splitBy_intercalate rfl nonempty]
  intro text member
  exact isElement_iff.mp (each text member)

section Joined

variable {texts : List String}

theorem toList_joined (texts : List String) :
    (",".intercalate texts).toList = [','].intercalate (texts.map String.toList) := by
  rw [String.toList_intercalate]
  rfl

theorem elements_joined (nonempty : texts ≠ []) (each : ∀ text ∈ texts, IsElement text.toList) :
    elements (",".intercalate texts).toList = texts.map fun text => trimChars text.toList := by
  rw [toList_joined, elements_intercalate (by simpa using nonempty) (by simpa using each),
    List.map_map]
  rfl

theorem notMem_joined (noReturn : ∀ text ∈ texts, '\r' ∉ text.toList) :
    '\r' ∉ (",".intercalate texts).toList := by
  rw [toList_joined]
  exact notMem_intercalate (by decide) (by simpa using noReturn)

/-- Elements that are not blank are not blank together. -/
theorem trimChars_joined_ne_nil (nonempty : texts ≠ [])
    (visible : ∀ text ∈ texts, blank text = false)
    (each : ∀ text ∈ texts, IsElement text.toList) :
    trimChars (",".intercalate texts).toList ≠ [] := by
  intro empty
  have alone := elements_trimChars (",".intercalate texts).toList
  rw [empty, elements_joined nonempty each] at alone
  rcases List.exists_cons_of_ne_nil nonempty with ⟨text, others, rfl⟩
  have noText : [] = trimChars text.toList := (List.cons.inj alone).1
  exact trimChars_ne_nil_of_blank (visible text List.mem_cons_self) noText.symm

end Joined

/-- The elements of a literal without brackets. -/
theorem arrayElements_of_not_enclosed {text : List Char} (visible : trimChars text ≠ [])
    (bare : ∀ inner, trimChars text ≠ '[' :: inner ++ [']']) : arrayElements text = elements text := by
  rw [arrayElements, stripPair_of_not_enclosed bare, trimChars_trimChars, if_neg visible,
    elements_trimChars]

/-- The elements of a literal in brackets. -/
theorem arrayElements_enclosed {text : List Char} (visible : trimChars text ≠ []) :
    arrayElements ('[' :: text ++ [']']) = elements text := by
  rw [arrayElements, trimChars_enclosed (by decide) (by decide), stripPair_enclosed, if_neg visible]

end Literal

namespace Registry

variable {registry : Registry} {type : ValueType} {texts : List String}

/-- The value of an element of an array: a text may stand between quotes, and for any other
type the element is converted like a cell. -/
def element? (registry : Registry) (type : ValueType) (text : String) : Option Value :=
  if type = .string then some (Literal.text (Text.trim text)) else registry.convert? type text

/-- A cell whose elements are known is the array of their values. -/
theorem convert?_of_arrayElements {cell : String} (noReturn : '\r' ∉ cell.toList)
    (nonempty : texts ≠ []) (found : Literal.arrayElements cell.toList
      = texts.map fun text => Text.trimChars text.toList) :
    registry.convert? (.array type) cell = (texts.mapM (registry.element? type)).map .array := by
  have shown : Text.trimChars cell.toList ≠ [] := by
    intro blank
    have none : Literal.arrayElements cell.toList = [] := by
      rw [Literal.arrayElements, blank]
      rfl
    rw [found, List.map_eq_nil_iff] at none
    exact nonempty none
  have each : ∀ text : String, (if type = .string then
        some (Value.text (String.ofList (Literal.unquote (Text.trimChars text.toList))))
      else registry.convertChars? type (Text.trimChars text.toList))
        = registry.element? type text := by
    intro text
    rw [element?]
    by_cases isText : type = .string
    · rw [if_pos isText, if_pos isText, Literal.text, Text.toList_trim]
    · rw [if_neg isText, if_neg isText, convertChars?_trimChars isText, convert?]
  rw [convert?, convertChars?, Text.unifyLineEnds_of_not_mem noReturn, if_neg shown, found,
    List.mapM_map]
  exact congrArg (fun reading => (texts.mapM reading).map Value.array) (funext each)

/-- Elements that are joined by commas between brackets make up the array of their values, and
so they do without the brackets unless the joined text has brackets around it itself. -/
theorem convert?_joined (nonempty : texts ≠ []) (visible : ∀ text ∈ texts, Text.blank text = false)
    (noReturn : ∀ text ∈ texts, '\r' ∉ text.toList)
    (each : ∀ text ∈ texts, Literal.IsElement text.toList) :
    registry.convert? (.array type) ("[" ++ ",".intercalate texts ++ "]")
        = (texts.mapM (registry.element? type)).map .array
      ∧ ((∀ inner, Text.trim (",".intercalate texts) ≠ "[" ++ inner ++ "]") →
        registry.convert? (.array type) (",".intercalate texts)
          = (texts.mapM (registry.element? type)).map .array) := by
  have elements := Literal.elements_joined nonempty each
  have shown := Literal.trimChars_joined_ne_nil nonempty visible each
  have plain := Literal.notMem_joined noReturn
  constructor
  · apply convert?_of_arrayElements _ nonempty
    · have enclosed : ("[" ++ ",".intercalate texts ++ "]").toList
          = '[' :: (",".intercalate texts).toList ++ [']'] := by simp
      rw [enclosed, Literal.arrayElements_enclosed shown, elements]
    · simpa using plain
  · intro bare
    apply convert?_of_arrayElements plain nonempty
    rw [Literal.arrayElements_of_not_enclosed shown, elements]
    intro inner enclosed
    apply bare (String.ofList inner)
    apply String.toList_inj.mp
    rw [Text.toList_trim, enclosed]
    simp

/-- Elements with a comma between quotes and between parentheses. -/
def sampleElements : List String := ["\"a, b\"", " f(x, [y]) ", "c"]

/-- A list of texts with and without brackets. -/
theorem sampleElements_joined :
    sampleElements ≠ []
      ∧ (∀ text ∈ sampleElements, Text.blank text = false)
      ∧ (∀ text ∈ sampleElements, '\r' ∉ text.toList)
      ∧ (∀ text ∈ sampleElements, Literal.IsElement text.toList)
      ∧ Registry.empty.convert? (.array .string) ("[" ++ ",".intercalate sampleElements ++ "]")
        = some (.array [.text "a, b", .text "f(x, [y])", .text "c"])
      ∧ Registry.empty.convert? (.array .string) (",".intercalate sampleElements)
        = some (.array [.text "a, b", .text "f(x, [y])", .text "c"]) := by
  have nonempty : sampleElements ≠ [] := by decide
  have visible : ∀ text ∈ sampleElements, Text.blank text = false := by decide
  have noReturn : ∀ text ∈ sampleElements, '\r' ∉ text.toList := by decide
  have each : ∀ text ∈ sampleElements, Literal.IsElement text.toList := by decide
  have values : sampleElements.mapM (Registry.empty.element? .string)
      = some [.text "a, b", .text "f(x, [y])", .text "c"] := by cbv
  rcases convert?_joined nonempty visible noReturn each with ⟨enclosed, bare⟩
  refine ⟨nonempty, visible, noReturn, each, ?_, ?_⟩
  · rw [enclosed, values]
    rfl
  · rw [bare, values]
    · rfl
    · intro inner same
      have first : (Text.trim (",".intercalate sampleElements)).toList.head? = some '"' := by cbv
      have bracket : ("[" ++ inner ++ "]").toList.head? = some '[' := by simp
      rw [← same, first] at bracket
      exact absurd bracket (by decide)

end Registry

end TypedSheets
