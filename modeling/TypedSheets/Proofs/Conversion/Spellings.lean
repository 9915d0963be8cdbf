import TypedSheets.Proofs.Conversion.Qualified
import TypedSheets.Proofs.Conversion.Ranges
import TypedSheets.Proofs.Text.Identifiers
import TypedSheets.Proofs.Types.Declaration

/-!
# Spellings of a member

Members may be written bare or after a name of their enumeration and a dot. Both spellings stand
for the same word in a cell of the enumeration, and the second one stands for it also where an
integer or nothing at all is declared: since no member has a dot in it, all of these readers take
the name of the enumeration off before the same dot.
-/

namespace TypedSheets

open Text

variable {character : Char} {typeName text rest : List Char} {names : List (List Char)}

/-! ## Text that names a type and members -/

namespace QualifiedMember

theorem isWord_or_eq_dot (named : isTypeName typeName = true) (member : character ∈ typeName) :
    isWord character = true ∨ character = '.' := by
  cases typeName with
  | nil => cases member
  | cons first typeName =>
      rw [isTypeName, Bool.and_eq_true, List.all_eq_true] at named
      rcases List.mem_cons.mp member with rfl | later
      · exact .inl (isWord_of_isNameStart named.1)
      · simpa using named.2 character later

theorem isBlank_of_mem_typeName (named : isTypeName typeName = true)
    (member : character ∈ typeName) : isBlank character = false := by
  rcases isWord_or_eq_dot named member with word | rfl
  · exact isBlank_of_isWord word
  · decide

theorem trimStart_typeName (named : isTypeName typeName = true) :
    trimStart typeName = typeName := by
  cases typeName with
  | nil => rfl
  | cons first typeName =>
      have shown := isBlank_of_mem_typeName named List.mem_cons_self
      exact List.dropWhile_cons_of_neg (by simp [shown])

theorem unifyLineEnds_qualified (named : isTypeName typeName = true) (text : List Char) :
    unifyLineEnds (typeName ++ '.' :: text) = typeName ++ '.' :: unifyLineEnds text := by
  have noReturn : '\r' ∉ typeName :=
    fun member => absurd (isBlank_of_mem_typeName named member) (by decide)
  rw [unifyLineEnds_append_of_not_mem noReturn, unifyLineEnds_cons (by simp)]

/-- A text that names a type and members has no blanks around it. -/
theorem trimChars_qualified (named : isTypeName typeName = true)
    (lists : ListsIdentifiers names text) :
    trimChars (typeName ++ '.' :: text) = typeName ++ '.' :: text := by
  rw [trimChars_append_cons (by decide), trimStart_typeName named, lists.trimEnd_eq]

theorem dot_notMem (lists : ListsIdentifiers names text) : '.' ∉ text :=
  lists.notMem isWord_dot (by decide) (by decide)

theorem isMemberList_of_lists (lists : ListsIdentifiers names text) : isMemberList text = true := by
  cases lists with
  | single identifier =>
      rw [isMemberList, splitChars_of_not_mem (notMem_identifier identifier isWord_bar)]
      exact identifier
  | @joined name left right others names identifier blankLeft blankRight lists =>
      have noBar := notMem_identifier identifier isWord_bar
      have noBarLeft : '|' ∉ left := notMem_of_forall_blank blankLeft (by decide)
      have pieces := lists.map_trimChars_splitChars blankRight
      have ends : trimEnd (name ++ left) = name := by
        rw [trimEnd_append_blank blankLeft, (ListsIdentifiers.single identifier).trimEnd_eq]
      rw [isMemberList, splitChars_append_cons, splitChars_of_not_mem (by simp [noBar, noBarLeft])]
      rcases List.exists_cons_of_ne_nil (splitChars_ne_nil '|' (right ++ others)) with
        ⟨piece, more, found⟩
      simp only [found, List.singleton_append, ends, identifier, Bool.true_and, List.all_eq_true]
      intro other member
      rw [← found] at member
      apply lists.isIdentifier_of_mem
      rw [← pieces]
      exact List.mem_map_of_mem member

/-- The type and the members come back that a text was made up of. -/
theorem read?_qualified (named : isTypeName typeName = true) (lists : ListsIdentifiers names text) :
    read? (String.ofList (typeName ++ '.' :: text))
      = some ⟨String.ofList typeName, String.ofList text⟩ := by
  rw [read?, String.toList_ofList, trimChars_qualified named lists,
    splitLast?_append_cons typeName (dot_notMem lists)]
  exact if_pos ⟨named, isMemberList_of_lists lists⟩

end QualifiedMember

/-! ## Member text -/

namespace EnumDef

variable {definition : EnumDef}

theorem segments_of_lists (lists : ListsIdentifiers names text) :
    segments (String.ofList text) = names.map String.ofList := by
  have pieces : (splitChars '|' ([] ++ text)).map trimChars = names :=
    lists.map_trimChars_splitChars (by simp)
  have nonempty : ∀ name ∈ names, name ≠ [] := by
    intro name member
    rcases exists_start_identifier (lists.isIdentifier_of_mem member) with ⟨first, rest, rfl, _⟩
    exact List.cons_ne_nil first rest
  rw [segments_ofList, ← List.nil_append text, pieces, ← List.filterMap_eq_map]
  apply List.filterMap_congr
  intro name member
  exact if_neg (nonempty name member)

/-- Line ends do not matter in member text. -/
theorem parse_unifyLineEnds (lists : ListsIdentifiers names text)
    (bars : '|' ∈ text → definition.flags = true) :
    definition.parse (String.ofList (unifyLineEnds text))
      = definition.parse (String.ofList text) := by
  cases lists with
  | single identifier => rw [unifyLineEnds_of_not_mem (return_notMem_identifier identifier)]
  | joined identifier blankLeft blankRight others =>
      have flags := bars (by simp)
      have whole := ListsIdentifiers.joined identifier blankLeft blankRight others
      rw [parse, parse, if_pos flags, if_pos flags, segments_of_lists whole,
        segments_of_lists whole.unifyLineEnds]

/-- The name that stands before the last dot is taken off, be it the full or the short one. -/
theorem withoutName_qualified (answers : definition.answersTo (String.ofList typeName) = true)
    (free : '.' ∉ text)
    (trimmed : trimChars (typeName ++ '.' :: text) = typeName ++ '.' :: text) :
    definition.withoutName (typeName ++ '.' :: text) = text := by
  rw [withoutName_eq_getD, trimmed]
  by_cases full : definition.name = String.ofList typeName
  · have taken : afterName? definition.name (typeName ++ '.' :: text) = some text := by
      rw [afterName?_eq_some_iff, full, String.toList_ofList]
    rw [taken]
    rfl
  · have short : definition.shortName = String.ofList typeName := by
      simpa [answersTo, full] using answers
    have bare : '.' ∉ typeName := by
      have free := dot_notMem_shortName definition
      rwa [short, String.toList_ofList] at free
    have dotted : '.' ∈ definition.name.toList := by
      apply Decidable.of_not_not
      intro noDot
      exact full ((shortName_eq_name noDot).symm.trans short)
    -- The full name and the dot after it have two dots, but the text has only one.
    have notTaken : afterName? definition.name (typeName ++ '.' :: text) = none := by
      rw [Option.eq_none_iff_forall_ne_some]
      intro rest reads
      rw [afterName?_eq_some_iff] at reads
      have dots := congrArg (List.count '.') reads
      have some := List.count_pos_iff.mpr dotted
      rw [List.count_append, List.count_append, List.count_cons_self, List.count_cons_self,
        List.count_eq_zero.mpr bare, List.count_eq_zero.mpr free] at dots
      omega
    have taken : afterName? definition.shortName (typeName ++ '.' :: text) = some text := by
      rw [afterName?_eq_some_iff, short, String.toList_ofList]
    rw [notTaken, taken]
    rfl

/-- Text without a dot is taken for members as it stands. -/
theorem withoutName_of_dot_notMem (free : '.' ∉ text) : definition.withoutName text = text := by
  apply withoutName_of_not_isQualified
  rintro (begins | begins)
  all_goals
    have dot := begins.subset (List.mem_append_right _ (List.mem_singleton_self '.'))
    exact free (mem_of_mem_trimChars dot)

end EnumDef

/-! ## The readers of members -/

namespace Registry

variable {registry : Registry} {definition : EnumDef} {name : String}

/-- A text that names an enumeration and members of it stands for what the members stand for. -/
theorem parseQualified?_qualified
    (found : registry.lookupEnum? (String.ofList typeName) = some definition)
    (named : QualifiedMember.isTypeName typeName = true) (lists : ListsIdentifiers names text)
    (bars : '|' ∈ text → definition.flags = true) :
    registry.parseQualified? (String.ofList (typeName ++ '.' :: text))
      = (definition.parse (String.ofList text)).toOption.map (Prod.mk definition.name) := by
  have allowed : ¬(!definition.flags && text.contains '|') = true := by
    rw [Bool.and_eq_true, Bool.not_eq_true', List.contains_iff_mem]
    rintro ⟨plain, bar⟩
    rw [bars bar] at plain
    cases plain
  rw [parseQualified?, QualifiedMember.read?_qualified named lists]
  simp only [Option.bind_eq_bind, Option.bind_some, found, String.toList_ofList, if_neg allowed,
    parseEnum, lookupEnum?_name found]
  cases definition.parse (String.ofList text) <;> rfl

section Member

variable {member : String} (found : registry.lookupEnum? name = some definition)
  (named : QualifiedMember.isTypeName name.toList = true)
  (lists : ListsIdentifiers names member.toList)
  (bars : '|' ∈ member.toList → definition.flags = true)

theorem toList_qualified (name member : String) :
    (name ++ "." ++ member).toList = name.toList ++ '.' :: member.toList := by simp

include lists in
theorem visible_member : visible member ≠ [] := by
  rcases lists.exists_first with ⟨first, rest, begins, _⟩
  rw [visible, ne_eq, trimChars_unifyLineEnds_eq_nil_iff, lists.trimChars_eq, begins]
  exact List.cons_ne_nil first rest

include named lists in
theorem visible_qualified : visible (name ++ "." ++ member) ≠ [] := by
  rw [visible, ne_eq, trimChars_unifyLineEnds_eq_nil_iff, toList_qualified,
    QualifiedMember.trimChars_qualified named lists]
  simp

include lists bars in
theorem parse_ofList_unifyLineEnds :
    definition.parse (String.ofList (unifyLineEnds member.toList)) = definition.parse member := by
  rw [EnumDef.parse_unifyLineEnds lists bars, String.ofList_toList]

include found lists bars in
theorem convert?_bare :
    registry.convert? (.enum definition.name) member
      = (definition.parse member).toOption.map (.enum definition.name) := by
  have free := QualifiedMember.dot_notMem lists.unifyLineEnds
  rw [convert?_enum (lookupEnum?_name found), if_neg (visible_member lists),
    EnumDef.withoutName_of_dot_notMem free, parse_ofList_unifyLineEnds lists bars]

include found named lists bars

theorem convert?_qualified :
    registry.convert? (.enum definition.name) (name ++ "." ++ member)
      = (definition.parse member).toOption.map (.enum definition.name) := by
  have answers : definition.answersTo (String.ofList name.toList) = true := by
    rw [String.ofList_toList]
    exact answersTo_of_lookupEnum? found
  have free := QualifiedMember.dot_notMem lists.unifyLineEnds
  have trimmed := QualifiedMember.trimChars_qualified named lists.unifyLineEnds
  rw [convert?_enum (lookupEnum?_name found), if_neg (visible_qualified named lists),
    toList_qualified, QualifiedMember.unifyLineEnds_qualified named,
    EnumDef.withoutName_qualified answers free trimmed, parse_ofList_unifyLineEnds lists bars]

theorem convert?_long_qualified :
    registry.convert? .long (name ++ "." ++ member)
      = (definition.parse member).toOption.map .int := by
  have shown := visible_qualified named lists
  have trimmed := QualifiedMember.trimChars_qualified named lists.unifyLineEnds
  have barsUnified : '|' ∈ unifyLineEnds member.toList → definition.flags = true :=
    fun bar => bars (mem_of_mem_unifyLineEnds bar)
  have foundChars : registry.lookupEnum? (String.ofList name.toList) = some definition := by
    rwa [String.ofList_toList]
  have reads : ∀ raw, registry.convertSimple? .long raw
      = (Literal.integer? .long (String.ofList raw)).or
        ((registry.parseQualified? (String.ofList raw)).map fun member => .int member.2) :=
    fun raw => convertSimple?_of_integerRange? rfl
  have dotted : '.' ∈ trimChars
      (String.ofList (name.toList ++ '.' :: unifyLineEnds member.toList)).toList := by
    rw [String.toList_ofList, trimmed]
    simp
  rw [visible, toList_qualified, QualifiedMember.unifyLineEnds_qualified named] at shown
  simp only [convert?, convertChars?, toList_qualified,
    QualifiedMember.unifyLineEnds_qualified named, if_neg shown, reads, integer?_eq_none_of_dot dotted,
    parseQualified?_qualified foundChars named lists.unifyLineEnds barsUnified,
    parse_ofList_unifyLineEnds lists bars, Option.none_or, Option.map_map]
  rfl

theorem convertUntyped?_qualified :
    registry.convertUntyped? (name ++ "." ++ member)
      = (definition.parse member).toOption.map (.enum definition.name) := by
  have foundChars : registry.lookupEnum? (String.ofList name.toList) = some definition := by
    rwa [String.ofList_toList]
  have whole : name ++ "." ++ member = String.ofList (name.toList ++ '.' :: member.toList) := by
    rw [← toList_qualified, String.ofList_toList]
  have shown : ¬Text.blank (name ++ "." ++ member) = true := by
    intro blank
    apply visible_qualified named lists
    rw [visible, trimChars_unifyLineEnds_eq_nil_iff]
    exact trimChars_eq_nil (List.all_eq_true.mp blank)
  rw [convertUntyped?, if_neg shown, whole, QualifiedMember.read?_qualified named lists]
  simp only [parseQualified?_qualified foundChars named lists bars, String.ofList_toList,
    Option.map_map]
  rfl

end Member

/-- Members of an enumeration stand for the same word, or for none, when they are written bare in
a cell of it, and after one of its names and a dot in a cell of it, in a cell of an integer and
in a cell without a declared type. -/
theorem convert?_spellings {member : String} (found : registry.lookupEnum? name = some definition)
    (named : QualifiedMember.isTypeName name.toList = true)
    (lists : ListsIdentifiers names member.toList)
    (bars : '|' ∈ member.toList → definition.flags = true) :
    registry.convert? (.enum definition.name) member
        = (definition.parse member).toOption.map (.enum definition.name)
      ∧ registry.convert? (.enum definition.name) (name ++ "." ++ member)
        = (definition.parse member).toOption.map (.enum definition.name)
      ∧ registry.convert? .long (name ++ "." ++ member)
        = (definition.parse member).toOption.map .int
      ∧ registry.convertUntyped? (name ++ "." ++ member)
        = (definition.parse member).toOption.map (.enum definition.name) :=
  ⟨convert?_bare found lists bars, convert?_qualified found named lists bars,
    convert?_long_qualified found named lists bars,
    convertUntyped?_qualified found named lists bars⟩

/-- Tags of two namespaces, of which those of the game come first. -/
def namesakeTags : Registry :=
  registered [⟨"Game.Tags", true, [⟨"Rare", none⟩, ⟨"Cursed", none⟩]⟩,
    ⟨"Ui.Tags", false, [⟨"Rare", some 7⟩]⟩]

/-- The tags of the game. -/
def namesakeDef : EnumDef := ⟨"Game.Tags", true, [⟨"Rare", some 1⟩, ⟨"Cursed", some 2⟩]⟩

/-- Two tags over two lines, bare and after the short name, which stands for the first
enumeration. -/
theorem namesakeTags_spellings :
    namesakeTags.lookupEnum? "Tags" = some namesakeDef
      ∧ QualifiedMember.isTypeName "Tags".toList = true
      ∧ ListsIdentifiers ["Rare".toList, "Cursed".toList] "Rare |\r\nCursed".toList
      ∧ namesakeDef.flags = true
      ∧ namesakeTags.convert? (.enum "Game.Tags") "Rare |\r\nCursed" = some (.enum "Game.Tags" 3)
      ∧ namesakeTags.convert? (.enum "Game.Tags") ("Tags" ++ "." ++ "Rare |\r\nCursed")
        = some (.enum "Game.Tags" 3)
      ∧ namesakeTags.convert? .long ("Tags" ++ "." ++ "Rare |\r\nCursed") = some (.int 3)
      ∧ namesakeTags.convertUntyped? ("Tags" ++ "." ++ "Rare |\r\nCursed")
        = some (.enum "Game.Tags" 3) := by
  have found : namesakeTags.lookupEnum? "Tags" = some namesakeDef := by cbv
  have named : QualifiedMember.isTypeName "Tags".toList = true := by decide +kernel
  have rare : isIdentifier "Rare".toList = true := by decide +kernel
  have cursed : isIdentifier "Cursed".toList = true := by decide +kernel
  have lists : ListsIdentifiers ["Rare".toList, "Cursed".toList]
      ("Rare".toList ++ [' '] ++ '|' :: (['\r', '\n'] ++ "Cursed".toList)) :=
    .joined rare (by simp [isBlank]) (by simp [isBlank]) (.single cursed)
  have written : "Rare".toList ++ [' '] ++ '|' :: (['\r', '\n'] ++ "Cursed".toList)
      = "Rare |\r\nCursed".toList := by decide
  rw [written] at lists
  have word : namesakeDef.parse "Rare |\r\nCursed" = .ok 3 := by cbv
  rcases convert?_spellings found named lists fun _ => rfl with ⟨bare, qualified, long, untyped⟩
  rw [word] at bare qualified long untyped
  exact ⟨found, named, lists, rfl, bare, qualified, long, untyped⟩

end Registry

end TypedSheets
