import TypedSheets.Proofs.Synthesis.Layout
import TypedSheets.Synthesis.Source

/-!
# Values in placeholders

Values are put in one name after the other, each time into the whole text. In a spaced template
this is the same as putting all of them into its placeholders once, in any order, exactly when no
value holds the placeholder of another name that would change it. Generated sources are made this
way from a few names.
-/

namespace TypedSheets.Synthesis

open Layout

variable {name text : String} {names : List String} {value : String × String}
variable {values order : List (String × String)} {template : Template}

/-- Names that are all different and can stand in placeholders. -/
structure AreNames (names : List String) : Prop where
  distinct : names.Nodup
  plain : ∀ name ∈ names, '%' ∉ name.toList

theorem AreNames.of_perm (areNames : AreNames (values.map Prod.fst)) (reordered : order.Perm values) :
    AreNames (order.map Prod.fst) := by
  have names := reordered.map Prod.fst
  exact ⟨names.nodup_iff.mpr areNames.distinct,
    fun name member => areNames.plain name (names.mem_iff.mp member)⟩

/-! ## Templates filled once -/

/-- The layout of a template for some names. -/
def Template.layout (template : Template) (names : List String) : Layout :=
  scan names 0 template.text.toList

/-- Whether the literal text of a template keeps the placeholders of some names apart. -/
structure Template.Spaced (template : Template) (names : List String) : Prop where
  layout : (template.layout names).Spaced names

instance (template : Template) (names : List String) : Decidable (template.Spaced names) :=
  decidable_of_iff _ ⟨Template.Spaced.mk, Template.Spaced.layout⟩

/-- The template with each of its own placeholders replaced by the value of its name. -/
def Template.fillOnce (template : Template) (values : List (String × String)) : String :=
  String.ofList ((template.layout (values.map Prod.fst)).fill fun name =>
    ((values.lookup name).getD "").toList)

theorem lookup_of_mem (distinct : (values.map Prod.fst).Nodup) (member : value ∈ values) :
    values.lookup value.1 = some value.2 := by
  rcases List.append_of_mem member with ⟨before, after, rfl⟩
  rw [List.lookup_eq_some_iff]
  refine ⟨before, after, rfl, ?_⟩
  intro earlier inside
  rw [List.map_append, List.nodup_append] at distinct
  have differs := distinct.2.2 earlier.1 (List.mem_map_of_mem inside) value.1 (by simp)
  simpa using differs.symm

/-! ## One name after the other -/

/-- Whether putting in a value does not change a text. -/
def Leaves (value : String × String) (text : String) : Prop :=
  mark value.1 <:+: text.toList → value.2 = Template.placeholder value.1

instance (value : String × String) (text : String) : Decidable (Leaves value text) :=
  inferInstanceAs (Decidable (_ → _))

/-- Whether no value is changed by one of another name. -/
def Verbatim (values : List (String × String)) : Prop :=
  ∀ value ∈ values, ∀ other ∈ values, other.1 ≠ value.1 → Leaves other value.2

instance (values : List (String × String)) : Decidable (Verbatim values) :=
  inferInstanceAs (Decidable (∀ value ∈ values, ∀ other ∈ values, other.1 ≠ value.1 →
    Leaves other value.2))

/-- Whether no value is changed by a later one. -/
def VerbatimInOrder (values : List (String × String)) : Prop :=
  values.Pairwise fun earlier later => Leaves later earlier.2

instance (values : List (String × String)) : Decidable (VerbatimInOrder values) :=
  inferInstanceAs (Decidable (values.Pairwise _))

/-- Putting values into characters, one name after the other. -/
def putAll (values : List (String × String)) (characters : List Char) : List Char :=
  values.foldl (fun read value => Text.replaceFrom (mark value.1) value.2.toList 0 read) characters

theorem toList_render (template : Template) (values : List (String × String)) :
    (template.render values).toList = putAll values template.text.toList := by
  rw [Template.render, putAll, List.foldl_hom String.toList]
  intro read value
  rw [Text.replaceAll, String.toList_ofList, mark]

theorem replaceFrom_mark_eq_self_iff :
    Text.replaceFrom (mark value.1) value.2.toList 0 text.toList = text.toList
      ↔ Leaves value text := by
  rw [Text.replaceFrom_eq_self_iff (mark_ne_nil value.1), Leaves, mark, String.toList_inj]

theorem putAll_of_leaves (leaves : ∀ value ∈ values, Leaves value text) :
    putAll values text.toList = text.toList := by
  induction values with
  | nil => rfl
  | cons value values ih =>
      rcases List.forall_mem_cons.mp leaves with ⟨first, rest⟩
      rw [putAll, List.foldl_cons, replaceFrom_mark_eq_self_iff.mpr first]
      exact ih rest

/-- The values of other names leave a placeholder. -/
theorem leaves_placeholder (plain : '%' ∉ name.toList) (differs : value.1 ≠ name) :
    Leaves value (Template.placeholder name) :=
  fun inside => absurd (eq_of_mark_inside plain inside) differs

theorem replaceFrom_mark_of_ne (plain : '%' ∉ name.toList) (differs : value.1 ≠ name) :
    Text.replaceFrom (mark value.1) value.2.toList 0 (mark name) = mark name :=
  replaceFrom_mark_eq_self_iff.mpr (leaves_placeholder plain differs)

/-- In a spaced layout, values are put into what stands for each placeholder. -/
theorem putAll_fill {layout : Layout} (spaced : layout.Spaced names)
    (listed : ∀ value ∈ values, value.1 ∈ names) (standing : String → List Char) :
    putAll values (layout.fill standing) = layout.fill fun name => putAll values (standing name) := by
  induction values generalizing standing with
  | nil => rfl
  | cons value values ih =>
      rcases List.forall_mem_cons.mp listed with ⟨first, rest⟩
      rw [putAll, List.foldl_cons, spaced.replaceFrom_fill first]
      exact ih rest _

/-- A placeholder becomes the value of its name when no later value changes that one. -/
theorem putAll_mark (areNames : AreNames (values.map Prod.fst)) (verbatim : VerbatimInOrder values)
    (member : value ∈ values) : putAll values (mark value.1) = value.2.toList := by
  induction values with
  | nil => cases member
  | cons first values ih =>
      have distinct := List.nodup_cons.mp areNames.distinct
      rcases List.forall_mem_cons.mp areNames.plain with ⟨-, plain⟩
      rcases List.pairwise_cons.mp verbatim with ⟨kept, others⟩
      rw [putAll, List.foldl_cons]
      rcases List.mem_cons.mp member with rfl | later
      · rw [Text.replaceFrom_pattern (mark_ne_nil value.1)]
        exact putAll_of_leaves kept
      · have differs : first.1 ≠ value.1 := fun same =>
          distinct.1 (same ▸ List.mem_map_of_mem later)
        rw [replaceFrom_mark_of_ne (plain value.1 (List.mem_map_of_mem later)) differs]
        exact ih ⟨distinct.2, plain⟩ others later

theorem render_eq_fillOnce (areNames : AreNames (values.map Prod.fst))
    (spaced : template.Spaced (values.map Prod.fst)) (reordered : order.Perm values)
    (verbatim : VerbatimInOrder order) :
    template.render order = template.fillOnce values := by
  have whole : (template.layout (values.map Prod.fst)).fill mark = template.text.toList :=
    fill_mark_scan (values.map Prod.fst) 0 template.text.toList
  have listed : ∀ value ∈ order, value.1 ∈ values.map Prod.fst := fun value member =>
    List.mem_map_of_mem (reordered.mem_iff.mp member)
  rw [← String.toList_inj, toList_render, Template.fillOnce, String.toList_ofList, ← whole,
    putAll_fill spaced.layout listed]
  apply spaced.layout.fill_congr
  intro name member
  rcases List.mem_map.mp member with ⟨value, inside, rfl⟩
  rw [lookup_of_mem areNames.distinct inside]
  exact putAll_mark (areNames.of_perm reordered) verbatim (reordered.mem_iff.mpr inside)

/-! ## Values that are changed -/

theorem Verbatim.inOrder (verbatim : Verbatim values) (areNames : AreNames (values.map Prod.fst))
    (reordered : order.Perm values) : VerbatimInOrder order := by
  have apart : order.Pairwise fun earlier later => earlier.1 ≠ later.1 :=
    List.pairwise_map.mp (areNames.of_perm reordered).distinct
  apply apart.imp_of_mem
  intro earlier later former latter differs
  exact verbatim earlier (reordered.mem_iff.mp former) later (reordered.mem_iff.mp latter)
    differs.symm

/-- A name is a template of its own, in which a value is changed by the one put in after it. -/
theorem leaves_of_render (areNames : AreNames (values.map Prod.fst))
    (once : ∀ template : Template, template.Spaced (values.map Prod.fst) →
      ∀ order, order.Perm values → template.render order = template.fillOnce values)
    {other : String × String} (member : value ∈ values) (listed : other ∈ values)
    (differs : other.1 ≠ value.1) : Leaves other value.2 := by
  have known : value.1 ∈ values.map Prod.fst := List.mem_map_of_mem member
  have alone : (Template.mk (Template.placeholder value.1)).layout (values.map Prod.fst)
      = token [] value.1 (last []) := scan_mark areNames.plain known
  -- the two values come last, so that nothing is changed before or afterwards
  have remains : other ∈ values.erase value :=
    (List.mem_erase_of_ne fun same => differs (congrArg Prod.fst same)).mpr listed
  have reordered : ((values.erase value).erase other ++ [value, other]).Perm values :=
    List.perm_append_comm.trans
      (((List.perm_cons_erase remains).symm.cons value).trans (List.perm_cons_erase member).symm)
  have before : ∀ earlier ∈ (values.erase value).erase other,
      Leaves earlier (Template.placeholder value.1) := by
    intro earlier inside
    apply leaves_placeholder (areNames.plain value.1 known)
    have names := (areNames.of_perm reordered).distinct
    rw [List.map_append, List.nodup_append] at names
    exact names.2.2 earlier.1 (List.mem_map_of_mem inside) value.1 (by simp)
  have spaced : (Template.mk (Template.placeholder value.1)).Spaced (values.map Prod.fst) := by
    constructor
    rw [alone]
    exact spaced_mark _ known
  have same := congrArg String.toList (once _ spaced _ reordered)
  rw [toList_render, putAll, List.foldl_append] at same
  change putAll [value, other] (putAll _ (Template.placeholder value.1).toList) = _ at same
  rw [putAll_of_leaves before, Template.fillOnce, alone, String.toList_ofList] at same
  change Text.replaceFrom (mark other.1) other.2.toList 0
    (Text.replaceFrom (mark value.1) value.2.toList 0 (mark value.1)) = _ at same
  rw [Text.replaceFrom_pattern (mark_ne_nil value.1)] at same
  apply replaceFrom_mark_eq_self_iff.mp
  simpa [fill, lookup_of_mem areNames.distinct member] using same

/-- In all spaced templates and orders, putting in one name after the other is filling once exactly
when no value is changed by one of another name. -/
theorem render_eq_fillOnce_iff (areNames : AreNames (values.map Prod.fst)) :
    (∀ template : Template, template.Spaced (values.map Prod.fst) →
        ∀ order, order.Perm values → template.render order = template.fillOnce values)
      ↔ Verbatim values := by
  constructor
  · intro once value member other listed differs
    exact leaves_of_render areNames once member listed differs
  · intro verbatim template spaced order reordered
    exact render_eq_fillOnce areNames spaced reordered (verbatim.inOrder areNames reordered)

end TypedSheets.Synthesis
