import TypedSheets.Proofs.Types.Numbering

/-!
# The values of flags without one

A flag without a value gets the next power of two after the value of the flag before it,
whether that one was given or not. So the values grow from one such flag to the next, and a
value that an earlier flag has can only come up again after a given value that is smaller: the
numbering goes on from there and does not look further back.
-/

namespace TypedSheets.EnumDef

variable {definition : EnumDef} {place : Nat} {value : Int64}

/-! ## Places -/

/-- The value of the member at a place after the members were numbered. -/
def valueAt? (definition : EnumDef) (place : Nat) : Option Int64 :=
  definition.normalized.members[place]?.bind EnumMember.value

/-- Whether the member at a place has a given value. -/
def GivenAt (definition : EnumDef) (place : Nat) (value : Int64) : Prop :=
  ∃ name, definition.members[place]? = some ⟨name, some value⟩

/-- Whether the member at a place has no given value. -/
def OpenAt (definition : EnumDef) (place : Nat) : Prop :=
  ∃ name, definition.members[place]? = some ⟨name, none⟩

/-- Whether the member at a place has no given value and is numbered with a value. -/
def AutomaticAt (definition : EnumDef) (place : Nat) (value : Int64) : Prop :=
  definition.OpenAt place ∧ definition.valueAt? place = some value

/-- Whether no member before a place has a value. -/
def UnusedBefore (definition : EnumDef) (place : Nat) (value : Int64) : Prop :=
  ∀ other < place, definition.valueAt? other ≠ some value

/-! ## Numbering from place to place -/

theorem getElem?_assign_of_given {flags : Bool} {next : Option Int64} {members : List EnumMember}
    {name : String} (given : members[place]? = some ⟨name, some value⟩) :
    (assign flags next members)[place]? = some ⟨name, some value⟩ := by
  induction members generalizing next place with
  | nil => simp at given
  | cons member members ih =>
      rcases member with ⟨first, own⟩
      cases place with
      | zero =>
          obtain ⟨rfl, rfl⟩ := EnumMember.mk.inj (Option.some.inj given)
          rfl
      | succ place =>
          rw [List.getElem?_cons_succ] at given
          cases own with
          | some own => exact ih given
          | none => exact ih given

/-- A power of two goes on to the next one, whether it is given or not. -/
theorem bind_afterAutomatic? {next : Option Int64} (continues : Continues true next) :
    next.bind (afterAutomatic? true) = next.bind nextPower? := by
  cases next with
  | none => rfl
  | some value => exact (after?_of_continues continues).symm

/-- A flag without a value that follows a flag goes on from it. -/
theorem value_assign_succ {next : Option Int64} {members : List EnumMember} {name : String}
    (continues : Continues true next) (automatic : members[place + 1]? = some ⟨name, none⟩) :
    (assign true next members)[place + 1]?.bind EnumMember.value
      = ((assign true next members)[place]?.bind EnumMember.value).bind nextPower? := by
  induction members generalizing next place with
  | nil => simp at automatic
  | cons member members ih =>
      rcases member with ⟨first, own⟩
      rw [List.getElem?_cons_succ] at automatic
      cases place with
      | zero =>
          cases members with
          | nil => simp at automatic
          | cons second members =>
              obtain rfl := Option.some.inj automatic
              cases own with
              | some own => rfl
              | none => exact bind_afterAutomatic? continues
      | succ place =>
          cases own with
          | some own => exact ih (continues_after true own) automatic
          | none => exact ih (continues_afterAutomatic continues) automatic

theorem valueAt?_of_givenAt (given : definition.GivenAt place value) :
    definition.valueAt? place = some value := by
  rcases given with ⟨name, given⟩
  rw [valueAt?, normalized, getElem?_assign_of_given given]
  rfl

/-- A value of a flag is given or automatic. -/
theorem givenAt_or_automaticAt (numbered : definition.valueAt? place = some value) :
    definition.GivenAt place value ∨ definition.AutomaticAt place value := by
  rcases Option.bind_eq_some_iff.mp numbered with ⟨member, found, _⟩
  have names : definition.normalized.members.map EnumMember.name
      = definition.members.map EnumMember.name := map_name_assign _ _ _
  have declared : definition.members[place]?.map EnumMember.name = some member.name := by
    rw [← List.getElem?_map, ← names, List.getElem?_map, found]
    rfl
  rcases Option.map_eq_some_iff.mp declared with ⟨⟨name, own⟩, present, _⟩
  cases own with
  | none => exact .inr ⟨⟨name, present⟩, numbered⟩
  | some own =>
      have given : definition.GivenAt place own := ⟨name, present⟩
      rw [valueAt?_of_givenAt given] at numbered
      obtain rfl := Option.some.inj numbered
      exact .inl given

section Flags

variable (flags : definition.flags = true)
include flags

theorem valueAt?_zero_of_openAt (automatic : definition.OpenAt 0) :
    definition.valueAt? 0 = some 1 := by
  rcases automatic with ⟨name, automatic⟩
  rw [valueAt?, normalized, flags]
  cases members : definition.members with
  | nil => simp [members] at automatic
  | cons member others =>
      rw [members] at automatic
      obtain rfl := Option.some.inj automatic
      rfl

theorem valueAt?_succ_of_openAt (automatic : definition.OpenAt (place + 1)) :
    definition.valueAt? (place + 1) = (definition.valueAt? place).bind nextPower? := by
  rcases automatic with ⟨name, automatic⟩
  rw [valueAt?, valueAt?, normalized, flags]
  exact value_assign_succ (continues_start true) automatic

/-! ## Values that come up again -/

theorem isPower_of_automaticAt (automatic : definition.AutomaticAt place value) : IsPower value := by
  rcases automatic with ⟨opened, numbered⟩
  cases place with
  | zero =>
      rw [valueAt?_zero_of_openAt flags opened] at numbered
      obtain rfl := Option.some.inj numbered
      exact ⟨0, rfl⟩
  | succ place =>
      rw [valueAt?_succ_of_openAt flags opened] at numbered
      rcases Option.bind_eq_some_iff.mp numbered with ⟨_, _, next⟩
      exact (nextPower?_eq_some_iff.mp next).1

/-- An earlier flag has a smaller value, unless a given value between the two is smaller. -/
theorem lt_or_exists_given {other : Nat} {earlier : Int64} (before : other < place)
    (held : definition.valueAt? other = some earlier)
    (automatic : definition.AutomaticAt place value) :
    earlier < value ∨ ∃ between last, other < between ∧ between < place
      ∧ definition.GivenAt between last ∧ last < value := by
  -- From place to place: the flag just before is smaller, and it is the other one, a given
  -- one, or one of which the same was shown.
  induction place generalizing value with
  | zero => exact absurd before (Nat.not_lt_zero _)
  | succ place ih =>
      rcases automatic with ⟨opened, numbered⟩
      rw [valueAt?_succ_of_openAt flags opened] at numbered
      rcases Option.bind_eq_some_iff.mp numbered with ⟨previous, present, next⟩
      have smaller : previous < value := Int64.lt_iff_toInt_lt.mpr (nextPower?_eq_some_iff.mp next).2.1
      rcases Nat.lt_or_eq_of_le (Nat.le_of_lt_succ before) with earlierPlace | rfl
      · rcases givenAt_or_automaticAt present with given | automatic
        · exact .inr ⟨place, previous, earlierPlace, Nat.lt_succ_self place, given, smaller⟩
        · rcases ih earlierPlace automatic with less | ⟨between, last, after, within, given, less⟩
          · exact .inl (Int64.lt_trans less smaller)
          · exact .inr ⟨between, last, after, Nat.lt_succ_of_lt within, given,
              Int64.lt_trans less smaller⟩
      · obtain rfl := Option.some.inj (held.symm.trans present)
        exact .inl smaller

/-- An automatic value is a power of two, and no flag before has it exactly if none has it that
stands before a smaller given value. -/
theorem automatic_unused_iff (automatic : definition.AutomaticAt place value) :
    IsPower value
      ∧ (definition.UnusedBefore place value
        ↔ ∀ between < place, ∀ last, definition.GivenAt between last → last < value →
          definition.UnusedBefore between value) := by
  refine ⟨isPower_of_automaticAt flags automatic, ?_, ?_⟩
  · intro unused between within _ _ _ other before
    exact unused other (Nat.lt_trans before within)
  · intro unused other before held
    rcases lt_or_exists_given flags before held automatic with
      less | ⟨between, last, after, within, given, less⟩
    · exact Int64.lt_irrefl less
    · exact unused between within last given less other after held

end Flags

/-- A flag without a value after two that go down. -/
def descendingTags : EnumDef := ⟨"Tags", true, [⟨"Quest", some 16⟩, ⟨"Rare", some 1⟩, ⟨"Cursed", none⟩]⟩

/-- The third flag is two, which the first one, before a smaller value, is not. -/
theorem descendingTags_unused :
    descendingTags.flags = true ∧ descendingTags.AutomaticAt 2 2 ∧ descendingTags.UnusedBefore 2 2 := by
  have automatic : descendingTags.AutomaticAt 2 2 := ⟨⟨"Cursed", rfl⟩, by decide +kernel⟩
  refine ⟨rfl, automatic, (automatic_unused_iff rfl automatic).2.mpr ?_⟩
  intro between within last _ _ other before
  have first : other = 0 := by omega
  rw [first]
  decide +kernel

/-- A flag without a value after two that go down by one bit. -/
def repeatedTags : EnumDef := ⟨"Tags", true, [⟨"Quest", some 2⟩, ⟨"Rare", some 1⟩, ⟨"Cursed", none⟩]⟩

/-- The third flag is two, which the first one is as well. -/
theorem repeatedTags_used :
    repeatedTags.flags = true ∧ repeatedTags.AutomaticAt 2 2 ∧ repeatedTags.valueAt? 0 = some 2
      ∧ ¬repeatedTags.UnusedBefore 2 2 := by
  have held : repeatedTags.valueAt? 0 = some 2 := by decide +kernel
  refine ⟨rfl, ⟨⟨"Cursed", rfl⟩, by decide +kernel⟩, held, ?_⟩
  intro unused
  exact unused 0 (by decide) held

end TypedSheets.EnumDef
