import TypedSheets.Proofs.Synthesis.Placeholders
import TypedSheets.Proofs.Text.Bytes

/-!
# Names in generated sources

The values of a source are put in under a few names, all different and without a percent sign. So
a source is its template filled once where the template is spaced, as the shipped ones are, and no
value is changed by a later one.
-/

namespace TypedSheets.Synthesis

variable {templates : TemplateLocator} {files : Files} {template : Template} {name : String}

/-! ## The names of values -/

/-- The names whose values are put into a template. -/
def TemplateName.names : TemplateName → List String
  | .recordClass => ["ClassName", "Fields"]
  | .pureRecordClass => ["ClassName", "Fields"]
  | .dictionaryTable => ["TableClassName", "ClassName", "KeyType", "KeyName"]
  | .searchableListTable => ["TableClassName", "ClassName", "FindParams", "FindPredicate"]
  | .listTable => ["TableClassName", "ClassName"]
  | .enum => ["ClassName", "Attributes", "EnumMembers"]

theorem areNames_of_kind (kind : TemplateName) : AreNames kind.names := by
  cases kind <;> constructor <;> decide

/-- The template that record classes are made from. -/
def recordTemplate (isPure : Bool) : TemplateName :=
  if isPure then .pureRecordClass else .recordClass

theorem recordValues_names (name : String) (schema : Schema) (isPure : Bool) :
    (recordValues name schema).map Prod.fst = (recordTemplate isPure).names := by
  cases isPure <;> rfl

/-- The key of a dictionary is there when its shape could be selected. -/
theorem tableValues_names {setting : Setting} {keys : List FieldSchema} {strategy : TableStrategy}
    (selected : TableStrategy.select setting keys = .ok strategy) (name : String) :
    (tableValues strategy name setting.className keys).map Prod.fst = (templateOf strategy).names := by
  cases strategy with
  | dictionary =>
      cases keys with
      | nil => cases kind : setting.tableKind <;> simp [TableStrategy.select, kind] at selected
      | cons => rfl
  | searchableList => rfl
  | plainList => rfl

theorem enumValues_names (name : String) (members : List EnumMember) (flags : Bool) :
    (enumValues name members flags).map Prod.fst = TemplateName.enum.names := rfl

theorem render_eq_fillOnce_of_names {kind : TemplateName} {values : List (String × String)}
    (named : values.map Prod.fst = kind.names) (spaced : template.Spaced kind.names)
    (verbatim : VerbatimInOrder values) : template.render values = template.fillOnce values := by
  rw [← named] at spaced
  exact render_eq_fillOnce (named ▸ areNames_of_kind kind) spaced (.refl values) verbatim

/-! ## Shipped templates -/

/-- ASCII text is spaced when the characters of its bytes are. -/
theorem spaced_of_ascii {names : List String}
    (ascii : (template.text.toUTF8.data.toList.all fun byte => byte < 0x80) = true)
    (spaced : (Layout.scan names 0
      (template.text.toUTF8.data.toList.map fun byte => Char.ofNat byte.toNat)).Spaced names) :
    template.Spaced names := by
  rw [← Text.Utf8.toList_of_ascii ascii] at spaced
  exact ⟨spaced⟩

/-- The text of a shipped template. -/
def Shipped.textOf : TemplateName → String
  | .recordClass => recordClass
  | .pureRecordClass => pureRecordClass
  | .dictionaryTable => dictionaryTable
  | .searchableListTable => searchableListTable
  | .listTable => listTable
  | .enum => enum

theorem template_shipped (files : Files) (kind : TemplateName) :
    TemplateLocator.shipped.template files kind = ⟨Shipped.textOf kind⟩ := by
  cases kind <;>
    simp [TemplateLocator.template, TemplateLocator.load, TemplateLocator.candidates,
      TemplateLocator.shipped, TemplateName.fileName, Shipped.all, Shipped.textOf, List.lookup]

theorem spaced_shipped (files : Files) (kind : TemplateName) :
    (TemplateLocator.shipped.template files kind).Spaced kind.names := by
  rw [template_shipped]
  cases kind <;> (apply spaced_of_ascii <;> decide +kernel)

/-! ## Sources -/

/-- Putting in one value after the other is filling the template once, for values that are not
changed by others and templates that keep the placeholders apart. The values of record classes,
tables and enumerations are put in that way. -/
theorem values_put_once {values : List (String × String)} (areNames : AreNames (values.map Prod.fst))
    (templates : TemplateLocator) (files : Files) :
    ((∀ template : Template, template.Spaced (values.map Prod.fst) →
          ∀ order, order.Perm values → template.render order = template.fillOnce values)
        ↔ Verbatim values)
      ∧ (∀ name schema isPure, recordValues name schema = values →
        (templates.template files (recordTemplate isPure)).Spaced (recordTemplate isPure).names →
        VerbatimInOrder values →
        recordClass templates files name schema isPure
          = (templates.template files (recordTemplate isPure)).fillOnce values)
      ∧ (∀ setting name keys strategy, TableStrategy.select setting keys = .ok strategy →
        tableValues strategy name setting.className keys = values →
        (templates.template files (templateOf strategy)).Spaced (templateOf strategy).names →
        VerbatimInOrder values →
        tableClass templates files setting name keys
          = .ok ((templates.template files (templateOf strategy)).fillOnce values))
      ∧ ∀ name members flags, enumValues name members flags = values →
        (templates.template files .enum).Spaced TemplateName.enum.names →
        VerbatimInOrder values →
        enumSource templates files name members flags
          = (templates.template files .enum).fillOnce values := by
  refine ⟨render_eq_fillOnce_iff areNames, ?_, ?_, ?_⟩
  · rintro name schema isPure rfl spaced verbatim
    exact render_eq_fillOnce_of_names (recordValues_names name schema isPure) spaced verbatim
  · rintro setting name keys strategy selected rfl spaced verbatim
    rw [tableClass, selected]
    exact congrArg Except.ok
      (render_eq_fillOnce_of_names (tableValues_names selected name) spaced verbatim)
  · rintro name members flags rfl spaced verbatim
    exact render_eq_fillOnce_of_names (enumValues_names name members flags) spaced verbatim

/-- The values of an enumeration whose name has a percent sign. -/
def rateValues : List (String × String) := enumValues "Rate%" [⟨"Low", some 1⟩, ⟨"High", none⟩] false

theorem rateValues_put_once :
    AreNames (rateValues.map Prod.fst)
      ∧ (Template.mk "%ClassName%: %EnumMembers%").render rateValues.reverse
        = (Template.mk "%ClassName%: %EnumMembers%").fillOnce rateValues
      ∧ enumSource .shipped .empty "Rate%" [⟨"Low", some 1⟩, ⟨"High", none⟩] false
        = (TemplateLocator.shipped.template .empty .enum).fillOnce rateValues := by
  have names : AreNames (rateValues.map Prod.fst) := areNames_of_kind .enum
  have verbatim : Verbatim rateValues := by decide +kernel
  have spaced : (Template.mk "%ClassName%: %EnumMembers%").Spaced (rateValues.map Prod.fst) := by
    decide +kernel
  rcases values_put_once names .shipped .empty with ⟨put, -, -, enumerations⟩
  refine ⟨names, put.mpr verbatim _ spaced _ (List.reverse_perm rateValues), ?_⟩
  exact enumerations "Rate%" _ false rfl (spaced_shipped .empty .enum)
    (verbatim.inOrder names (.refl rateValues))

/-- A value that is a placeholder is replaced once more, and of two placeholders that share a
percent sign the one replaced is not the first one but that of the earlier value. -/
theorem placeholder_put_twice :
    (Template.mk "%A%").fillOnce [("A", "%B%"), ("B", "x")] = "%B%"
      ∧ (Template.mk "%A%").render [("A", "%B%"), ("B", "x")] = "x"
      ∧ (Template.mk "%A%B%").fillOnce [("B", "1"), ("A", "2")] = "2B%"
      ∧ (Template.mk "%A%B%").render [("B", "1"), ("A", "2")] = "%A1" := by
  decide +kernel

end TypedSheets.Synthesis
