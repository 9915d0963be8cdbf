import Mathlib
import TypedSheets.Proofs.Conversion.Members
import TypedSheets.Proofs.Text.Trim

/-!
# Flags that are written with their type

A cell of an enumeration may begin with the name of the enumeration and a dot, which is taken
off once and before the cell is cut at its bars. So two texts may be combined with a bar in
every way that leaves such a name to the first of them, and a name before the second one
counts as a part of the member.
-/

namespace TypedSheets

namespace Text

variable {beginning characters rest : List Char}

theorem stripPrefix?_eq_some_iff :
    stripPrefix? beginning characters = some rest ↔ characters = beginning ++ rest := by
  constructor
  · exact eq_append_of_stripPrefix?
  · rintro rfl
    exact stripPrefix?_append beginning rest

/-- A beginning that does not hold a character ends before the first one of it. -/
theorem isPrefix_of_append_cons {separator : Char} {front back : List Char}
    (begins : beginning <+: front ++ separator :: back) (free : separator ∉ beginning) :
    beginning <+: front := by
  rcases List.prefix_or_prefix_of_prefix begins (List.prefix_append front _) with within | beyond
  · exact within
  · rcases beyond with ⟨more, rfl⟩
    cases more with
    | nil => simp
    | cons first more =>
        have head := (List.prefix_append_right_inj front).mp begins
        rw [List.cons_prefix_cons] at head
        simp [head.1] at free

/-- A beginning with a visible end stays one when the blanks after it are taken off. -/
theorem isPrefix_trimEnd {last : Char} (visible : isBlank last = false)
    (begins : beginning ++ [last] <+: characters) : beginning ++ [last] <+: trimEnd characters := by
  rcases begins with ⟨rest, rfl⟩
  rw [List.append_assoc, List.singleton_append, trimEnd_append_cons visible]
  exact ⟨trimEnd rest, by simp⟩

theorem not_mem_of_blank {separator : Char} (shown : isBlank separator = false)
    {blanks : String} (blank : Text.blank blanks = true) : separator ∉ blanks.toList :=
  notMem_of_forall_blank (List.all_eq_true.mp blank) shown

/-- A cell of two texts with a bar and blanks between them falls into two parts, which have
the visible characters of the texts. -/
theorem exists_parts_of_bar {first second left right : String} (noBar : '|' ∉ first.toList)
    (noOther : '|' ∉ second.toList) (blankLeft : blank left = true)
    (blankRight : blank right = true) : ∃ front back,
    unifyLineEnds (first ++ left ++ "|" ++ right ++ second).toList = front ++ '|' :: back
      ∧ '|' ∉ front ∧ '|' ∉ back
      ∧ trimChars front = visible first ∧ trimChars back = visible second := by
  refine ⟨unifyLineEnds (first.toList ++ left.toList), unifyLineEnds (right.toList ++ second.toList),
    ?_, ?_, ?_, ?_, ?_⟩
  · rw [← unifyLineEnds_append_cons (by decide) (by decide)]
    simp
  · intro member
    rcases List.mem_append.mp (mem_of_mem_unifyLineEnds member) with inFirst | inLeft
    · exact noBar inFirst
    · exact not_mem_of_blank (by decide) blankLeft inLeft
  · intro member
    rcases List.mem_append.mp (mem_of_mem_unifyLineEnds member) with inRight | inSecond
    · exact not_mem_of_blank (by decide) blankRight inRight
    · exact noOther inSecond
  · rw [visible, trimChars_unifyLineEnds, trimChars_unifyLineEnds,
      trimChars_append_blank (List.all_eq_true.mp blankLeft)]
  · rw [visible, trimChars_unifyLineEnds, trimChars_unifyLineEnds,
      trimChars_blank_append (List.all_eq_true.mp blankRight)]

end Text

namespace EnumDef

open Text

variable {definition : EnumDef} {name : String} {front back text rest : List Char}

/-- Whether text begins with a name and a dot, the blanks before it apart. -/
def BeginsWith (name : String) (text : List Char) : Prop :=
  name.toList ++ ['.'] <+: trimChars text

/-- Whether text begins with the full or the short name of an enumeration and a dot. -/
def IsQualified (definition : EnumDef) (text : List Char) : Prop :=
  BeginsWith definition.name text ∨ BeginsWith definition.shortName text

/-- Whether no name of an enumeration that text begins with holds a bar. -/
def BeginsPlainly (definition : EnumDef) (text : List Char) : Prop :=
  ∀ name ∈ [definition.name, definition.shortName], '|' ∈ name.toList → ¬BeginsWith name text

theorem afterName?_eq_some_iff :
    afterName? name text = some rest ↔ text = name.toList ++ '.' :: rest := by
  simp only [afterName?, Option.bind_eq_some_iff, stripPrefix?_eq_some_iff]
  constructor
  · rintro ⟨_, rfl, rfl⟩
    rfl
  · rintro rfl
    exact ⟨_, rfl, rfl⟩

/-- The name that a cell begins with ends before the first bar, if it holds none itself. -/
theorem begins_of_append_cons (plain : '|' ∈ name.toList → ¬BeginsWith name (front ++ '|' :: back))
    (begins : BeginsWith name (front ++ '|' :: back)) : BeginsWith name front := by
  have free : '|' ∉ name.toList ++ ['.'] := by
    have absent : '|' ∉ name.toList := fun member => plain member begins
    simpa using absent
  rw [BeginsWith, trimChars_append_cons (by decide)] at begins
  exact isPrefix_trimEnd (by decide) (isPrefix_of_append_cons begins free)

/-- What follows a name before a bar goes on to what follows the bar. -/
theorem exists_afterName?_append_cons (front back : List Char) :
    ∃ blanks, (∀ character ∈ blanks, isBlank character = true)
      ∧ ∀ name, ('|' ∈ name.toList → ¬BeginsWith name (front ++ '|' :: back)) →
        afterName? name (trimChars (front ++ '|' :: back))
          = (afterName? name (trimChars front)).map (· ++ blanks ++ '|' :: trimEnd back) := by
  -- The blanks before the bar lie within the whole text and are trimmed off the front alone.
  rcases exists_append_trimEnd (trimStart front) with ⟨blanks, blank, split⟩
  have whole : trimChars (front ++ '|' :: back) = trimChars front ++ blanks ++ '|' :: trimEnd back := by
    rw [trimChars_append_cons (by decide), trimChars, ← split]
  refine ⟨blanks, blank, ?_⟩
  intro name plain
  cases found : afterName? name (trimChars front) with
  | some rest =>
      rw [afterName?_eq_some_iff] at found
      rw [Option.map_some, afterName?_eq_some_iff, whole, found]
      simp
  | none =>
      rw [Option.map_none, Option.eq_none_iff_forall_ne_some]
      intro rest reads
      rw [afterName?_eq_some_iff] at reads
      have begins : BeginsWith name (front ++ '|' :: back) := ⟨rest, by simp [reads]⟩
      rcases begins_of_append_cons plain begins with ⟨others, same⟩
      have present : afterName? name (trimChars front) = some others := by
        rw [afterName?_eq_some_iff, ← same]
        simp
      rw [found] at present
      cases present

/-- The name that is taken off is the full one before the short one. -/
theorem withoutName_eq_getD (definition : EnumDef) (text : List Char) :
    definition.withoutName text
      = ((afterName? definition.name (trimChars text)).or
          (afterName? definition.shortName (trimChars text))).getD text := by
  rw [withoutName]
  cases afterName? definition.name (trimChars text) <;> rfl

theorem withoutName_of_not_isQualified (bare : ¬definition.IsQualified text) :
    definition.withoutName text = text := by
  have absent : ∀ name, ¬BeginsWith name text → afterName? name (trimChars text) = none := by
    intro name other
    rw [Option.eq_none_iff_forall_ne_some]
    intro rest reads
    rw [afterName?_eq_some_iff] at reads
    exact other ⟨rest, by simp [reads]⟩
  rw [IsQualified, not_or] at bare
  rw [withoutName_eq_getD, absent _ bare.1, absent _ bare.2]
  rfl

theorem mem_of_mem_withoutName {character : Char}
    (member : character ∈ definition.withoutName text) : character ∈ text := by
  rw [withoutName_eq_getD] at member
  cases found : (afterName? definition.name (trimChars text)).or
      (afterName? definition.shortName (trimChars text)) with
  | none => simpa [found] using member
  | some rest =>
      rw [found] at member
      apply mem_of_mem_trimChars
      rcases Option.or_eq_some_iff.mp found with named | ⟨_, named⟩
      all_goals
        rw [afterName?_eq_some_iff.mp named]
        exact List.mem_append_right _ (List.mem_cons_of_mem _ member)

/-- Only the visible characters of text without a bar decide on its segments. -/
theorem segments_congr (noBar : '|' ∉ front) (noOther : '|' ∉ back)
    (same : trimChars front = trimChars back) :
    segments (String.ofList front) = segments (String.ofList back) := by
  rw [segments_of_not_mem noBar, segments_of_not_mem noOther, same]

/-- The segments of a cell with a bar are those before it, with the name of the enumeration
taken off, and those after it as they stand. -/
theorem segments_withoutName_append_cons (noBar : '|' ∉ front) (noOther : '|' ∉ back)
    (plain : definition.BeginsPlainly (front ++ '|' :: back)) :
    segments (String.ofList (definition.withoutName (front ++ '|' :: back)))
      = segments (String.ofList (definition.withoutName front)) ++ segments (String.ofList back) := by
  rcases exists_afterName?_append_cons front back with ⟨blanks, blank, after⟩
  have named := after definition.name (plain _ (by simp))
  have short := after definition.shortName (plain _ (by simp))
  have noBarLeft : '|' ∉ definition.withoutName front :=
    fun member => noBar (mem_of_mem_withoutName member)
  rw [withoutName_eq_getD] at noBarLeft ⊢
  rw [withoutName_eq_getD, named, short, ← Option.map_or]
  cases taken : (afterName? definition.name (trimChars front)).or
      (afterName? definition.shortName (trimChars front)) with
  | none => exact segments_append_cons front back
  | some rest =>
      rw [taken, Option.getD_some] at noBarLeft
      have noBarBlanks : '|' ∉ blanks := fun member => absurd (blank _ member) (by decide)
      have noBarMiddle : '|' ∉ rest ++ blanks := by
        simpa [noBarBlanks] using noBarLeft
      have noOtherEnd : '|' ∉ trimEnd back := fun member => noOther (mem_of_mem_trimEnd member)
      rw [Option.map_some, Option.getD_some, Option.getD_some, segments_append_cons,
        segments_congr noBarMiddle noBarLeft (trimChars_append_blank blank rest),
        segments_congr noOtherEnd noOther (trimChars_trimEnd back)]

/-- Only the visible characters of a cell decide on the segments of its members. -/
theorem segments_withoutName_congr (noBar : '|' ∉ front) (noOther : '|' ∉ back)
    (same : trimChars front = trimChars back) :
    segments (String.ofList (definition.withoutName front))
      = segments (String.ofList (definition.withoutName back)) := by
  rw [withoutName_eq_getD, withoutName_eq_getD, same]
  cases (afterName? definition.name (trimChars back)).or
      (afterName? definition.shortName (trimChars back)) with
  | none => exact segments_congr noBar noOther same
  | some rest => rfl

end EnumDef

namespace Registry

variable {registry : Registry} {name : String} {definition : EnumDef}

/-- A visible cell of an enumeration stands for the members that are left when the name is taken
off. -/
theorem convert?_enum (found : registry.lookupEnum? name = some definition) (raw : String) :
    registry.convert? (.enum name) raw
      = if Text.visible raw = [] then none
        else (definition.parse
          (String.ofList (definition.withoutName (Text.unifyLineEnds raw.toList)))).toOption.map
            (.enum name) := by
  simp only [convert?, convertChars?, convertSimple?, memberText, found, parseEnum, Text.visible]
  cases definition.parse (String.ofList (definition.withoutName (Text.unifyLineEnds raw.toList))) <;> rfl

/-- A cell of a flag enumeration is visible and stands for the segments of its members. -/
theorem convert?_of_flags (found : registry.lookupEnum? name = some definition)
    (flags : definition.flags = true) (raw : String) (value : Value) :
    registry.convert? (.enum name) raw = some value
      ↔ Text.visible raw ≠ [] ∧ ∃ word, value = .enum name word
        ∧ definition.combine 0 (EnumDef.segments
          (String.ofList (definition.withoutName (Text.unifyLineEnds raw.toList)))) = .ok word := by
  rw [convert?_enum found, EnumDef.parse, if_pos flags]
  split
  · next blank => simp [blank]
  · next shown =>
      cases definition.combine 0 (EnumDef.segments
          (String.ofList (definition.withoutName (Text.unifyLineEnds raw.toList)))) with
      | ok word => simp [shown, Except.toOption, eq_comm]
      | error error => simp [Except.toOption]

/-- A bar and a further member add the bits of the member, spelled as it stands after the bar,
to what the text before the bar stands for. -/
theorem convert?_append_bar (found : registry.lookupEnum? name = some definition)
    (flags : definition.flags = true) {first second left right : String} {word : Int64}
    (noBar : '|' ∉ first.toList) (noOther : '|' ∉ second.toList)
    (blankLeft : Text.blank left = true) (blankRight : Text.blank right = true)
    (plain : definition.BeginsPlainly
      (Text.unifyLineEnds (first ++ left ++ "|" ++ right ++ second).toList))
    (converted : registry.convert? (.enum name) first = some (.enum name word))
    (shown : Text.visible second ≠ []) :
    registry.convert? (.enum name) (first ++ left ++ "|" ++ right ++ second)
      = (definition.memberValue? (String.ofList (Text.visible second))).map fun other =>
          .enum name (word ||| other) := by
  rcases Text.exists_parts_of_bar noBar noOther blankLeft blankRight with
    ⟨front, back, whole, noBarFront, noBarBack, sameFront, sameBack⟩
  have noBarFirst : '|' ∉ Text.unifyLineEnds first.toList :=
    fun member => noBar (Text.mem_of_mem_unifyLineEnds member)
  rw [whole] at plain
  have segments := EnumDef.segments_withoutName_append_cons noBarFront noBarBack plain
  rw [EnumDef.segments_withoutName_congr noBarFront noBarFirst sameFront,
    EnumDef.segments_of_not_mem noBarBack, sameBack, if_neg shown] at segments
  rcases (convert?_of_flags found flags _ _).mp converted with ⟨_, _, same, joined⟩
  obtain rfl := (Value.enum.inj same).2
  have visibleWhole : Text.visible (first ++ left ++ "|" ++ right ++ second) ≠ [] := by
    rw [Text.visible, whole, Text.trimChars_append_cons (by decide)]
    simp
  apply Option.ext
  intro value
  rw [convert?_of_flags found flags, whole, segments, EnumDef.combine_append, joined]
  cases member : definition.memberValue? (String.ofList (Text.visible second)) with
  | none =>
      rw [EnumDef.combine_cons_of_none member]
      simp [bind, Except.bind]
  | some other =>
      rw [EnumDef.combine_cons_of_some member, EnumDef.combine]
      simp [bind, Except.bind, pure, Except.pure, visibleWhole, eq_comm]

/-- What a text without a bar and without the name of its enumeration stands for is a member. -/
theorem memberValue?_of_convert? (found : registry.lookupEnum? name = some definition)
    (flags : definition.flags = true) {raw : String} {word : Int64} (noBar : '|' ∉ raw.toList)
    (bare : ¬definition.IsQualified (Text.unifyLineEnds raw.toList))
    (converted : registry.convert? (.enum name) raw = some (.enum name word)) :
    definition.memberValue? (String.ofList (Text.visible raw)) = some word := by
  rcases (convert?_of_flags found flags _ _).mp converted with ⟨shown, _, same, joined⟩
  obtain rfl := (Value.enum.inj same).2
  have noBarUnified : '|' ∉ Text.unifyLineEnds raw.toList :=
    fun member => noBar (Text.mem_of_mem_unifyLineEnds member)
  rw [EnumDef.withoutName_of_not_isQualified bare, EnumDef.segments_of_not_mem noBarUnified] at joined
  rw [Text.visible] at shown ⊢
  rw [if_neg shown] at joined
  cases member : definition.memberValue?
      (String.ofList (Text.trimChars (Text.unifyLineEnds raw.toList))) with
  | none =>
      rw [EnumDef.combine_cons_of_none member] at joined
      cases joined
  | some other =>
      rw [EnumDef.combine_cons_of_some member, EnumDef.combine, Int64.zero_or] at joined
      rw [Except.ok.inj joined]

/-- What a cell stands for that ends with a bar and a further text: the bits of both, unless
the name of the enumeration stands before the further text, in which case the name counts as
a part of the member. -/
structure Combines (registry : Registry) (definition : EnumDef) (name whole : String)
    (word : Int64) (further : String) (other : Int64) : Prop where
  bare : ¬definition.IsQualified (Text.unifyLineEnds further.toList) →
    registry.convert? (.enum name) whole = some (.enum name (word ||| other))
  qualified : definition.IsQualified (Text.unifyLineEnds further.toList) →
    registry.convert? (.enum name) whole
      = (definition.memberValue? (String.ofList (Text.visible further))).map fun member =>
        .enum name (word ||| member)

theorem combines_append_bar (found : registry.lookupEnum? name = some definition)
    (flags : definition.flags = true) {first second left right : String} {word other : Int64}
    (noBar : '|' ∉ first.toList) (noOther : '|' ∉ second.toList)
    (blankLeft : Text.blank left = true) (blankRight : Text.blank right = true)
    (plain : definition.BeginsPlainly
      (Text.unifyLineEnds (first ++ left ++ "|" ++ right ++ second).toList))
    (converted : registry.convert? (.enum name) first = some (.enum name word))
    (convertedOther : registry.convert? (.enum name) second = some (.enum name other)) :
    registry.Combines definition name (first ++ left ++ "|" ++ right ++ second) word second other := by
  have shown := ((convert?_of_flags found flags _ _).mp convertedOther).1
  have whole := convert?_append_bar found flags noBar noOther blankLeft blankRight plain converted shown
  constructor
  · intro bare
    rw [whole, memberValue?_of_convert? found flags noOther bare convertedOther]
    rfl
  · intro _
    exact whole

/-- Two texts without bars that stand for words of a flag enumeration combine to the bits of
both when a bar is put between them, in either order, where the name of the enumeration stands
before neither or only before the first one. -/
theorem convert?_combines (found : registry.lookupEnum? name = some definition)
    (flags : definition.flags = true) {first second left right : String} {word other : Int64}
    (noBar : '|' ∉ first.toList) (noOther : '|' ∉ second.toList)
    (blankLeft : Text.blank left = true) (blankRight : Text.blank right = true)
    (converted : registry.convert? (.enum name) first = some (.enum name word))
    (convertedOther : registry.convert? (.enum name) second = some (.enum name other)) :
    (definition.BeginsPlainly (Text.unifyLineEnds (first ++ left ++ "|" ++ right ++ second).toList) →
        registry.Combines definition name (first ++ left ++ "|" ++ right ++ second) word second other)
      ∧ (definition.BeginsPlainly (Text.unifyLineEnds (second ++ left ++ "|" ++ right ++ first).toList) →
        registry.Combines definition name (second ++ left ++ "|" ++ right ++ first) other first word) := by
  constructor
  · intro plain
    exact combines_append_bar found flags noBar noOther blankLeft blankRight plain converted convertedOther
  · intro plain
    exact combines_append_bar found flags noOther noBar blankLeft blankRight plain convertedOther converted

/-- A tag that is written with its type combines with the bare ones after it. -/
theorem qualifiedTag_combines :
    sampleTagged.lookupEnum? "Tags" = some sampleTags ∧ sampleTags.flags = true
      ∧ sampleTagged.convert? (.enum "Tags") " Tags.A" = some (.enum "Tags" 1)
      ∧ sampleTagged.convert? (.enum "Tags") "C" = some (.enum "Tags" 4)
      ∧ sampleTagged.convert? (.enum "Tags") (" Tags.A" ++ " " ++ "|" ++ "\n" ++ "C")
        = some (.enum "Tags" 5) := by
  have found : sampleTagged.lookupEnum? "Tags" = some sampleTags := by cbv
  have converted : sampleTagged.convert? (.enum "Tags") " Tags.A" = some (.enum "Tags" 1) := by cbv
  have convertedOther : sampleTagged.convert? (.enum "Tags") "C" = some (.enum "Tags" 4) := by cbv
  have plain : sampleTags.BeginsPlainly
      (Text.unifyLineEnds (" Tags.A" ++ " " ++ "|" ++ "\n" ++ "C").toList) := by
    unfold EnumDef.BeginsPlainly EnumDef.BeginsWith
    decide
  have bare : ¬sampleTags.IsQualified (Text.unifyLineEnds "C".toList) := by
    unfold EnumDef.IsQualified EnumDef.BeginsWith
    decide
  refine ⟨found, rfl, converted, convertedOther, ?_⟩
  exact ((convert?_combines found rfl (by decide) (by decide) (by decide) (by decide) converted
    convertedOther).1 plain).bare bare

/-- A registry with a flag enumeration that has a bar in its name. -/
def barredTagged : Registry :=
  Registry.empty.registerEnum ⟨"A|B", true, [⟨"A", none⟩, ⟨"B.C", none⟩, ⟨"C", none⟩]⟩

/-- The type is not taken off a tag that stands after a bar, and a name with a bar in it may be
made up by two texts. -/
theorem qualifiedTags_not_combined :
    sampleTagged.resolve? "Tags" = some (.enum "Tags")
      ∧ sampleTagged.convert? (.enum "Tags") "A" = some (.enum "Tags" 1)
      ∧ sampleTagged.convert? (.enum "Tags") "Tags.B" = some (.enum "Tags" 2)
      ∧ sampleTagged.convert? (.enum "Tags") ("Tags.B" ++ "|" ++ "A") = some (.enum "Tags" 3)
      ∧ sampleTagged.convert? (.enum "Tags") ("A" ++ "|" ++ "Tags.B") = none
      ∧ barredTagged.resolve? "A|B" = some (.enum "A|B")
      ∧ barredTagged.convert? (.enum "A|B") "A" = some (.enum "A|B" 1)
      ∧ barredTagged.convert? (.enum "A|B") "B.C" = some (.enum "A|B" 2)
      ∧ barredTagged.convert? (.enum "A|B") ("A" ++ "|" ++ "B.C") = some (.enum "A|B" 4) := by
  exact ⟨by cbv, by cbv, by cbv, by cbv, by cbv, by cbv, by cbv, by cbv, by cbv⟩

end Registry

end TypedSheets
