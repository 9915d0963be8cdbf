import TypedSheets.Files.Basic

/-!
# Templates

Texts with names between percent signs, the values put in for those names, and the
directories where templates are looked for. Templates that no directory has are the
ones given here.
-/

namespace TypedSheets.Synthesis

/-- A text with placeholders. -/
structure Template where
  text : String
deriving DecidableEq

namespace Template

/-- Whether there is no text, as for a template that was not found. -/
def isEmpty (template : Template) : Bool := template.text == ""

/-- The placeholder of a name. -/
def placeholder (name : String) : String := "%" ++ name ++ "%"

/-- The text with every placeholder replaced by its value, one name after the
other. -/
def render (template : Template) (values : List (String × String)) : String :=
  values.foldl (fun text value => Text.replaceAll (placeholder value.1) value.2 text) template.text

end Template

/-- The templates by what they are for. -/
inductive TemplateName where
  | recordClass
  | pureRecordClass
  | dictionaryTable
  | searchableListTable
  | listTable
  | enum
deriving DecidableEq

/-- The file a template is in. -/
def TemplateName.fileName : TemplateName → String
  | .recordClass => "RecordClass.txt"
  | .pureRecordClass => "PureRecordClass.txt"
  | .dictionaryTable => "DictionaryTable.txt"
  | .searchableListTable => "SearchableListTable.txt"
  | .listTable => "ListTable.txt"
  | .enum => "Enum.txt"

namespace Shipped

/-- The comment that generated sources begin with. -/
def header : String :=
  "// <auto-generated>\n" ++
  "// Generated by sheetforge. Changes will be lost on the next codegen run.\n" ++
  "// </auto-generated>\n"

def recordClass : String :=
  header ++
  "using System;\n" ++
  "using UnityEngine;\n" ++
  "\n" ++
  "public class %ClassName% : ScriptableObject\n" ++
  "\x7b\n" ++
  "%Fields%\n" ++
  "\x7d\n"

def pureRecordClass : String :=
  header ++
  "using System;\n" ++
  "using UnityEngine;\n" ++
  "\n" ++
  "[Serializable]\n" ++
  "public class %ClassName%\n" ++
  "\x7b\n" ++
  "%Fields%\n" ++
  "\x7d\n"

/-- The beginning of every table class, up to its rows. -/
def tableHead : String :=
  header ++
  "using System;\n" ++
  "using System.Collections.Generic;\n" ++
  "using UnityEngine;\n" ++
  "\n" ++
  "public class %TableClassName% : ScriptableObject\n" ++
  "\x7b\n" ++
  "    public List<%ClassName%> rows = new List<%ClassName%>();\n"

def listTable : String :=
  tableHead ++
  "\x7d\n"

def searchableListTable : String :=
  tableHead ++
  "\n" ++
  "    public %ClassName% Find(%FindParams%)\n" ++
  "    \x7b\n" ++
  "        return rows.Find(o => %FindPredicate%);\n" ++
  "    \x7d\n" ++
  "\x7d\n"

def dictionaryTable : String :=
  tableHead ++
  "\n" ++
  "    [NonSerialized]\n" ++
  "    private Dictionary<%KeyType%, %ClassName%> index;\n" ++
  "\n" ++
  "    private void BuildIndex()\n" ++
  "    \x7b\n" ++
  "        if (index != null) return;\n" ++
  "        index = new Dictionary<%KeyType%, %ClassName%>();\n" ++
  "        foreach (var row in rows)\n" ++
  "        \x7b\n" ++
  "            index[row.%KeyName%] = row;\n" ++
  "        \x7d\n" ++
  "    \x7d\n" ++
  "\n" ++
  "    public %ClassName% Get(%KeyType% %KeyName%)\n" ++
  "    \x7b\n" ++
  "        BuildIndex();\n" ++
  "        return index[%KeyName%];\n" ++
  "    \x7d\n" ++
  "\n" ++
  "    public %ClassName% Find(%KeyType% %KeyName%)\n" ++
  "    \x7b\n" ++
  "        BuildIndex();\n" ++
  "        %ClassName% row;\n" ++
  "        return index.TryGetValue(%KeyName%, out row) ? row : null;\n" ++
  "    \x7d\n" ++
  "\x7d\n"

def enum : String :=
  header ++
  "using System;\n" ++
  "\n" ++
  "%Attributes%public enum %ClassName%\n" ++
  "\x7b\n" ++
  "%EnumMembers%\n" ++
  "\x7d\n"

/-- The templates that come with the library, by file name. -/
def all : List (String × String) := [
  ("RecordClass.txt", recordClass),
  ("PureRecordClass.txt", pureRecordClass),
  ("DictionaryTable.txt", dictionaryTable),
  ("SearchableListTable.txt", searchableListTable),
  ("ListTable.txt", listTable),
  ("Enum.txt", enum)]

end Shipped

/-- Where templates are looked for after the primary directory. -/
inductive Fallback where
  | shipped
  | directory (path : String)
deriving DecidableEq

/-- Where templates are looked for. -/
structure TemplateLocator where
  primary : Option String
  fallback : Fallback
deriving DecidableEq

namespace TemplateLocator

/-- The shipped templates only. -/
def shipped : TemplateLocator := ⟨none, .shipped⟩

/-- The paths at which a template file is looked for. -/
def candidates (locator : TemplateLocator) (fileName : String) : List String :=
  (locator.primary.toList ++ match locator.fallback with
    | .directory path => [path]
    | .shipped => []).map fun directory => Path.join directory fileName

/-- The text of a template file: the first that can be read, or nothing. -/
def load (locator : TemplateLocator) (files : Files) (fileName : String) : String :=
  let found := (locator.candidates fileName).findSome? fun path => (files.readText path).toOption
  match found, locator.fallback with
  | some text, _ => text
  | none, .shipped => (Shipped.all.lookup fileName).getD ""
  | none, .directory _ => ""

/-- The template of a name. -/
def template (locator : TemplateLocator) (files : Files) (name : TemplateName) : Template :=
  ⟨locator.load files name.fileName⟩

end TemplateLocator

end TypedSheets.Synthesis
