import TypedSheets.Json.Writer
import TypedSheets.Proofs.Json.Scalar

/-!
# Texts of JSON values

Both texts of a value are one text with other space between its parts: none, or a line for
each part of a container.
-/

namespace TypedSheets

namespace Json

/-- The space in the text of a value. -/
structure Layout where
  /-- Before each part of a container that lies at a level, and before its end. -/
  apart : Nat → List Char
  /-- Between a key and its value. -/
  afterColon : List Char
  blank_apart : ∀ level, Blank (apart level)
  blank_afterColon : Blank afterColon

mutual

/-- The text of a value that begins at a level, in a layout. -/
def writeWith (layout : Layout) (level : Nat) : Json → List Char
  | .array [] => ['[', ']']
  | .array (item :: items) =>
      '[' :: layout.apart (level + 1)
        ++ (',' :: layout.apart (level + 1)).intercalate
            (item.writeWith layout (level + 1) :: itemsWith layout (level + 1) items)
        ++ layout.apart level ++ [']']
  | .object [] => ['\x7b', '\x7d']
  | .object ((key, value) :: entries) =>
      '\x7b' :: layout.apart (level + 1)
        ++ (',' :: layout.apart (level + 1)).intercalate
            ((writeString key ++ ':' :: layout.afterColon ++ value.writeWith layout (level + 1))
              :: entriesWith layout (level + 1) entries)
        ++ layout.apart level ++ ['\x7d']
  | .null | .unreadable => "null".toList
  | .bool value => if value then "true".toList else "false".toList
  | .number value => value.write
  | .string text => writeString text

/-- The texts of a list of values in a layout. -/
def itemsWith (layout : Layout) (level : Nat) : List Json → List (List Char)
  | [] => []
  | item :: items => item.writeWith layout level :: itemsWith layout level items

/-- The texts of the entries of an object in a layout. -/
def entriesWith (layout : Layout) (level : Nat) : List (String × Json) → List (List Char)
  | [] => []
  | (key, value) :: entries =>
      (writeString key ++ ':' :: layout.afterColon ++ value.writeWith layout level)
        :: entriesWith layout level entries

end

theorem writeWith_array_cons (layout : Layout) (level : Nat) (item : Json) (items : List Json) :
    (array (item :: items)).writeWith layout level
      = '[' :: layout.apart (level + 1)
          ++ (',' :: layout.apart (level + 1)).intercalate
              (itemsWith layout (level + 1) (item :: items))
          ++ layout.apart level ++ [']'] := by
  rw [writeWith, itemsWith]

theorem writeWith_object_cons (layout : Layout) (level : Nat) (entry : String × Json)
    (entries : List (String × Json)) :
    (object (entry :: entries)).writeWith layout level
      = '\x7b' :: layout.apart (level + 1)
          ++ (',' :: layout.apart (level + 1)).intercalate
              (entriesWith layout (level + 1) (entry :: entries))
          ++ layout.apart level ++ ['\x7d'] := by
  rw [writeWith, entriesWith]

namespace Layout

/-- No space at all. -/
def compact : Layout where
  apart := fun _ => []
  afterColon := []
  blank_apart := fun _ => blank_nil
  blank_afterColon := blank_nil

/-- A line for each part of a container. -/
def indented : Layout where
  apart := newline
  afterColon := [' ']
  blank_apart := by
    intro level character member
    rcases List.mem_cons.mp member with rfl | space
    · simp
    · exact .inl (List.eq_of_mem_replicate space)
  blank_afterColon := by
    intro character member
    exact .inl (List.mem_singleton.mp member)

end Layout

mutual

theorem writeWith_compact (level : Nat) (json : Json) :
    json.writeWith Layout.compact level = json.writeCompact := by
  cases json with
  | array items =>
      cases items with
      | nil => rfl
      | cons item items =>
          simp [writeWith, writeCompact, compactItems, Layout.compact,
            ← writeWith_compact (level + 1) item, ← itemsWith_compact (level + 1) items]
  | object entries =>
      cases entries with
      | nil => rfl
      | cons entry entries =>
          rcases entry with ⟨key, value⟩
          simp [writeWith, writeCompact, compactEntries, Layout.compact,
            ← writeWith_compact (level + 1) value, ← entriesWith_compact (level + 1) entries]
  | _ => rfl

theorem itemsWith_compact (level : Nat) (items : List Json) :
    itemsWith Layout.compact level items = compactItems items := by
  cases items with
  | nil => rfl
  | cons item items =>
      rw [itemsWith, compactItems, writeWith_compact level item, itemsWith_compact level items]

theorem entriesWith_compact (level : Nat) (entries : List (String × Json)) :
    entriesWith Layout.compact level entries = compactEntries entries := by
  cases entries with
  | nil => rfl
  | cons entry entries =>
      rcases entry with ⟨key, value⟩
      rw [entriesWith, compactEntries, writeWith_compact level value,
        entriesWith_compact level entries]
      simp [Layout.compact]

end

mutual

theorem writeWith_indented (level : Nat) (json : Json) :
    json.writeWith Layout.indented level = json.writePretty level := by
  cases json with
  | array items =>
      cases items with
      | nil => rfl
      | cons item items =>
          rw [writeWith, writePretty, writeWith_indented (level + 1) item,
            itemsWith_indented (level + 1) items]
          rfl
  | object entries =>
      cases entries with
      | nil => rfl
      | cons entry entries =>
          rcases entry with ⟨key, value⟩
          rw [writeWith, writePretty, writeWith_indented (level + 1) value,
            entriesWith_indented (level + 1) entries]
          simp [Layout.indented]
  | _ => rfl

theorem itemsWith_indented (level : Nat) (items : List Json) :
    itemsWith Layout.indented level items = prettyItems level items := by
  cases items with
  | nil => rfl
  | cons item items =>
      rw [itemsWith, prettyItems, writeWith_indented level item, itemsWith_indented level items]

theorem entriesWith_indented (level : Nat) (entries : List (String × Json)) :
    entriesWith Layout.indented level entries = prettyEntries level entries := by
  cases entries with
  | nil => rfl
  | cons entry entries =>
      rcases entry with ⟨key, value⟩
      rw [entriesWith, prettyEntries, writeWith_indented level value,
        entriesWith_indented level entries]
      simp [Layout.indented]

end

end Json

end TypedSheets
