import TypedSheets.Numeral.Integer
import TypedSheets.Text.Split

/-!
# Enumerations

A named list of members with 64-bit values. A member without a value gets one by
`normalized`: the value after the one before it, or for a flag enumeration the next
power of two. Members stay without a value where no such word is left.
-/

namespace TypedSheets

/-- A member of an enumeration; without a value until one is given to it. -/
structure EnumMember where
  name : String
  value : Option Int64
deriving DecidableEq

/-- An enumeration. Dots in its name separate the namespaces it lies in. -/
structure EnumDef where
  name : String
  flags : Bool
  members : List EnumMember
deriving DecidableEq

namespace EnumDef

/-- The least power of two above a word and above zero; none where it is not in the
range of a word. -/
def nextPower? (value : Int64) : Option Int64 :=
  ((List.range 63).find? fun exponent => decide (value.toInt < Nat.pow 2 exponent)).map fun exponent =>
    Int64.ofNat (Nat.pow 2 exponent)

/-- The value for a member without one that follows a member with a given value. -/
def after? (flags : Bool) (value : Int64) : Option Int64 :=
  if flags then nextPower? value else Numeral.word? (value.toInt + 1)

/-- The value for a member without one that follows a member which got its value the
same way. -/
def afterAutomatic? (flags : Bool) (value : Int64) : Option Int64 :=
  Numeral.word? (if flags then value.toInt * 2 else value.toInt + 1)

/-- Give values to the members without one, the next of them getting `next`. -/
def assign (flags : Bool) (next : Option Int64) : List EnumMember → List EnumMember
  | [] => []
  | member :: members =>
      match member.value with
      | some value => member :: assign flags (after? flags value) members
      | none =>
          { member with value := next } :: assign flags (next.bind (afterAutomatic? flags)) members

/-- The enumeration with a value for every member for which one is left. -/
def normalized (definition : EnumDef) : EnumDef :=
  { definition with
    members := assign definition.flags (some (if definition.flags then 1 else 0)) definition.members }

/-- The last segment of the name. -/
def shortName (definition : EnumDef) : String :=
  String.ofList (Text.afterLast '.' definition.name.toList)

/-- Whether a name means this enumeration: its name or the last segment of it. -/
def answersTo (definition : EnumDef) (name : String) : Bool :=
  definition.name == name || definition.shortName == name

/-- All values of members, combined bit by bit. -/
def mask (definition : EnumDef) : Int64 :=
  (definition.members.filterMap EnumMember.value).foldl (· ||| ·) 0

/-- Whether a word is a value of the enumeration: that of a member, or for flags a
combination of member bits. -/
def acceptsValue (definition : EnumDef) (value : Int64) : Bool :=
  if definition.flags then decide (0 ≤ value) && value &&& ~~~definition.mask == 0
  else definition.members.any fun member => member.value == some value

/-- The value of the first member with a name, if it has one. -/
def memberValue? (definition : EnumDef) (name : String) : Option Int64 :=
  (definition.members.find? fun member => member.name == name).bind EnumMember.value

/-- The name of the first member with a value. -/
def memberName? (definition : EnumDef) (value : Int64) : Option String :=
  (definition.members.find? fun member => member.value == some value).map EnumMember.name

@[simp] theorem name_normalized (definition : EnumDef) :
    definition.normalized.name = definition.name := rfl

@[simp] theorem flags_normalized (definition : EnumDef) :
    definition.normalized.flags = definition.flags := rfl

@[simp] theorem shortName_normalized (definition : EnumDef) :
    definition.normalized.shortName = definition.shortName := rfl

@[simp] theorem answersTo_normalized (definition : EnumDef) (name : String) :
    definition.normalized.answersTo name = definition.answersTo name := rfl

end EnumDef

end TypedSheets
