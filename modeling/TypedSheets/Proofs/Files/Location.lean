import Mathlib.Data.List.Nodup
import TypedSheets.Files.Basic
import TypedSheets.Proofs.Text.Split

/-!
# Files in a directory

A path names a directory when one can go down its parts. A name without slashes, joined to
such a path, names a file directly in this directory; writing and removing the file change
its entry among the files held there, and nothing else.
-/

namespace TypedSheets

namespace Path

theorem components_of_slash (left right : String) {path : String}
    (cut : path.toList = left.toList ++ '/' :: right.toList) :
    components path = components left ++ components right := by
  simp only [components, Text.split, cut, Text.splitChars_append_cons, List.map_append,
    List.filter_append]

/-- Whether a name is one part of a path. -/
def IsPart (name : String) : Prop :=
  name ≠ "" ∧ name ≠ "." ∧ '/' ∉ name.toList

theorem components_of_isPart {name : String} (part : IsPart name) : components name = [name] := by
  rcases part with ⟨some, visible, whole⟩
  simp [components, Text.split, Text.splitChars_of_not_mem whole, some, visible]

theorem isAbsolute_of_isPart {name : String} (part : IsPart name) : isAbsolute name = false := by
  rcases part with ⟨-, -, whole⟩
  rw [isAbsolute, beq_eq_false_iff_ne]
  intro slash
  exact whole (List.mem_of_head? slash)

/-- The parts of a name in a directory. -/
theorem components_join (directory : String) {name : String} (part : IsPart name) :
    components (join directory name) = components directory ++ [name] := by
  have own := components_of_isPart part
  rw [join, isAbsolute_of_isPart part, if_neg Bool.false_ne_true]
  by_cases nothing : directory = ""
  · rw [if_pos (.inl nothing), nothing, String.empty_append, own]
    rfl
  · by_cases slash : directory.toList.getLast? = some '/'
    · rcases List.getLast?_eq_some_iff.mp slash with ⟨front, ends⟩
      have parts : components directory = components (String.ofList front) ++ components "" :=
        components_of_slash _ _ (by simp [ends])
      have joined : components (directory ++ name)
          = components (String.ofList front) ++ components name :=
        components_of_slash _ _ (by simp [ends])
      have none : components "" = [] := rfl
      rw [if_pos (.inr slash), joined, parts, none, own, List.append_nil]
    · rw [if_neg (not_or.mpr ⟨nothing, slash⟩), components_of_slash directory name (by simp), own]

theorem isAbsolute_join (directory : String) {name : String} (part : IsPart name) :
    isAbsolute (join directory name) = isAbsolute directory := by
  have relative := isAbsolute_of_isPart part
  rw [join, relative, if_neg Bool.false_ne_true]
  by_cases nothing : directory = ""
  · rw [if_pos (.inl nothing), nothing, String.empty_append, relative]
    rfl
  · have begins : directory.toList ≠ [] := by simpa using nothing
    rcases List.exists_cons_of_ne_nil begins with ⟨first, others, characters⟩
    split <;> simp [isAbsolute, characters]

end Path

namespace Files

variable {files : Files} {path : String} {directory : Parts}

/-! ## Directories -/

theorem descend_append (files : Files) (current : Parts) (front back : List String) :
    files.descend current (front ++ back)
      = (files.descend current front).bind fun reached => files.descend reached back := by
  induction front generalizing current with
  | nil => rfl
  | cons part front ih =>
      simp only [List.cons_append, descend]
      split
      · exact ih _
      · split
        · rfl
        · split
          · exact ih _
          · split <;> rfl

/-- Whether a path is one that the system takes. -/
def IsPath (path : String) : Prop :=
  path ≠ "" ∧ path.toList.contains '\x00' = false ∧ ¬pathLimit ≤ path.utf8ByteSize

theorem isPath_of_locate {place : Place} (located : files.locate path = .ok place) :
    IsPath path := by
  unfold locate at located
  split at located
  · cases located
  · next some =>
      split at located
      · cases located
      · next text =>
          split at located
          · cases located
          · next short => exact ⟨some, Bool.eq_false_iff.mpr text, short⟩

theorem locate_of_nil (taken : IsPath path) (none : Path.components path = []) :
    files.locate path = .ok (.directory (files.origin path)) := by
  rcases taken with ⟨some, text, short⟩
  rw [locate, if_neg some, if_neg (Bool.eq_false_iff.mp text), if_neg short]
  simp [none]

/-- What the last part of a path names in the directory that the others lead to. -/
theorem locate_of_concat (taken : IsPath path) {front : List String} {last : String}
    (parts : Path.components path = front ++ [last]) :
    files.locate path
      = (files.descend (files.origin path) front).bind fun reached =>
          if last = ".." then .ok (.directory reached.dropLast)
          else if partLimit < last.utf8ByteSize then .error .nameTooLong
          else if files.hasDirectory (reached ++ [last]) then .ok (.directory (reached ++ [last]))
          else
            match files.content? (reached ++ [last]) with
            | some content =>
                if endsAsDirectory path then .error .notADirectory
                else .ok (.file (reached ++ [last]) content)
            | none => .ok (.free (reached ++ [last])) := by
  rcases taken with ⟨some, text, short⟩
  rw [locate, if_neg some, if_neg (Bool.eq_false_iff.mp text), if_neg short]
  simp only [parts, List.getLast?_append, List.getLast?_singleton, List.dropLast_concat,
    Option.some_or]
  cases files.descend (files.origin path) front <;> rfl

/-- A path names the directory that its parts lead to. -/
theorem locate_eq_directory_iff :
    files.locate path = .ok (.directory directory)
      ↔ IsPath path
        ∧ files.descend (files.origin path) (Path.components path) = .ok directory := by
  by_cases taken : IsPath path
  · simp only [taken, true_and]
    rcases List.eq_nil_or_concat' (Path.components path) with none | ⟨front, last, parts⟩
    · rw [locate_of_nil taken none, none, descend]
      simp
    · rw [locate_of_concat taken parts, parts, descend_append]
      cases files.descend (files.origin path) front with
      | error error => simp [Except.bind]
      | ok reached =>
          simp only [Except.bind, descend]
          split
          · simp
          · split
            · simp
            · split
              · simp
              · cases files.content? (reached ++ [last]) <;> simp
                split <;> simp
  · constructor
    · intro located
      exact absurd (isPath_of_locate located) taken
    · intro leads
      exact absurd leads.1 taken

/-- A step down leads to the directory above or to one that is there. -/
theorem descend_cons_eq_ok_iff {current : Parts} {part : String} {parts : List String} :
    files.descend current (part :: parts) = .ok directory
      ↔ (part = ".." ∧ files.descend current.dropLast parts = .ok directory)
        ∨ (part ≠ ".." ∧ ¬partLimit < part.utf8ByteSize
          ∧ files.hasDirectory (current ++ [part]) = true
          ∧ files.descend (current ++ [part]) parts = .ok directory) := by
  rw [descend]
  split
  · next up => simp [up]
  · next down =>
      split
      · next long => simp [down, long]
      · next short =>
          cases here : files.hasDirectory (current ++ [part]) with
          | true => simp [down, short, here]
          | false =>
              simp only [here, if_neg Bool.false_ne_true]
              split <;> simp [down]

/-- Going down directories does not depend on the files. -/
theorem descend_with_contents (contents : List (Parts × ByteArray)) {parts : List String}
    {current : Parts} (leads : files.descend current parts = .ok directory) :
    ({ files with contents } : Files).descend current parts = .ok directory := by
  induction parts generalizing current with
  | nil => exact leads
  | cons part parts ih =>
      rw [descend_cons_eq_ok_iff] at leads ⊢
      rcases leads with ⟨up, leads⟩ | ⟨down, short, here, leads⟩
      · exact .inl ⟨up, ih leads⟩
      · exact .inr ⟨down, short, here, ih leads⟩

theorem locate_with_contents (contents : List (Parts × ByteArray))
    (located : files.locate path = .ok (.directory directory)) :
    ({ files with contents } : Files).locate path = .ok (.directory directory) := by
  rw [locate_eq_directory_iff] at located ⊢
  exact ⟨located.1, descend_with_contents contents located.2⟩

/-- Where directories are, none is made. -/
theorem makeDown_of_descend {parts : List String} {current : Parts}
    (leads : files.descend current parts = .ok directory) :
    files.makeDown current parts = .ok files := by
  induction parts generalizing current with
  | nil => rfl
  | cons part parts ih =>
      rw [makeDown]
      rcases descend_cons_eq_ok_iff.mp leads with ⟨up, leads⟩ | ⟨down, short, here, leads⟩
      · rw [if_pos up, ih leads]
      · simp [down, short, here, ih leads]

theorem makeDirectories_of_locate (located : files.locate path = .ok (.directory directory)) :
    files.makeDirectories path = .ok files := by
  rcases locate_eq_directory_iff.mp located with ⟨⟨-, text, short⟩, leads⟩
  rw [makeDirectories, if_neg (Bool.eq_false_iff.mp text), if_neg short]
  exact makeDown_of_descend leads

/-- Whether the parts of a path lead to a directory. The empty path leads to the working
directory. -/
def LeadsTo (files : Files) (path : String) (directory : Parts) : Prop :=
  files.descend (files.origin path) (Path.components path) = .ok directory

theorem LeadsTo.of_locate (located : files.locate path = .ok (.directory directory)) :
    files.LeadsTo path directory :=
  (locate_eq_directory_iff.mp located).2

theorem LeadsTo.with_contents (leads : files.LeadsTo path directory)
    (contents : List (Parts × ByteArray)) : ({ files with contents } : Files).LeadsTo path directory :=
  descend_with_contents contents leads

/-- Making directories only adds directories. -/
theorem exists_directories_of_makeDown {after : Files} {parts : List String} {current : Parts}
    (made : files.makeDown current parts = .ok after) :
    ∃ more, after = { files with directories := files.directories ++ more } := by
  induction parts generalizing files current with
  | nil =>
      cases made
      exact ⟨[], by simp⟩
  | cons part parts ih =>
      rw [makeDown] at made
      split at made
      · exact ih made
      · split at made
        · cases made
        · simp only at made
          split at made
          · exact ih made
          · split at made
            · cases made
            · rcases ih made with ⟨more, rfl⟩
              exact ⟨[current ++ [part]] ++ more, by simp⟩

/-- Where directories were made, one can go down. -/
theorem exists_descend_of_makeDown {after : Files} {parts : List String} {current : Parts}
    (made : files.makeDown current parts = .ok after) :
    ∃ directory, after.descend current parts = .ok directory := by
  induction parts generalizing files current with
  | nil => exact ⟨current, rfl⟩
  | cons part parts ih =>
      -- A directory that is there before the rest is made is there after it.
      have stays : ∀ {between : Files}, between.hasDirectory (current ++ [part]) = true →
          between.makeDown (current ++ [part]) parts = .ok after →
            after.hasDirectory (current ++ [part]) = true := by
        intro between here rest
        rcases exists_directories_of_makeDown rest with ⟨more, rfl⟩
        simp only [hasDirectory, Bool.or_eq_true, List.contains_append] at here ⊢
        exact here.imp_right .inl
      rw [makeDown] at made
      split at made
      · next up =>
          rcases ih made with ⟨directory, leads⟩
          exact ⟨directory, descend_cons_eq_ok_iff.mpr (.inl ⟨up, leads⟩)⟩
      · next down =>
          split at made
          · cases made
          · next short =>
              simp only at made
              split at made
              · next here =>
                  rcases ih made with ⟨directory, leads⟩
                  exact ⟨directory,
                    descend_cons_eq_ok_iff.mpr (.inr ⟨down, short, stays here made, leads⟩)⟩
              · split at made
                · cases made
                · rcases ih made with ⟨directory, leads⟩
                  have here := stays (by simp [hasDirectory]) made
                  exact ⟨directory,
                    descend_cons_eq_ok_iff.mpr (.inr ⟨down, short, here, leads⟩)⟩

/-- A directory that was made is where its path leads to. -/
theorem exists_leadsTo_of_makeDirectories {after : Files}
    (made : files.makeDirectories path = .ok after) : ∃ directory, after.LeadsTo path directory := by
  rw [makeDirectories] at made
  split at made
  · cases made
  · split at made
    · cases made
    · rcases exists_descend_of_makeDown made with ⟨directory, leads⟩
      rcases exists_directories_of_makeDown made with ⟨more, rfl⟩
      exact ⟨directory, leads⟩

/-! ## Files in them -/

/-- Where the thing lies that a path names. -/
def Place.parts : Place → Parts
  | .directory parts => parts
  | .file parts _ => parts
  | .free parts => parts

section Child

variable {name : String} (leads : files.LeadsTo path directory) (part : Path.IsPart name)
  (proper : name ≠ "..")

include leads part proper

/-- A name in a directory names something directly in it. -/
theorem parts_of_locate_join {place : Place}
    (found : files.locate (Path.join path name) = .ok place) : place.parts = directory ++ [name] := by
  have taken := isPath_of_locate found
  have origins : files.origin (Path.join path name) = files.origin path := by
    rw [origin, origin, Path.isAbsolute_join path part]
  rw [LeadsTo] at leads
  rw [locate_of_concat taken (Path.components_join path part), origins, leads] at found
  simp only [Except.bind, if_neg proper] at found
  split at found
  · cases found
  · split at found
    · cases found
      rfl
    · split at found
      · split at found
        · cases found
        · cases found
          rfl
      · cases found
        rfl

/-- A file written in a directory is put under its name there. -/
theorem write_join {content : ByteArray} {after : Files}
    (written : files.write (Path.join path name) content = .ok after) :
    after = { files with
      contents := putContent (directory ++ [name]) content files.contents } := by
  simp only [write] at written
  split at written
  · next parts _ found =>
      have here : parts = directory ++ [name] := parts_of_locate_join leads part proper found
      cases written
      rw [here]
  · next parts found =>
      have here : parts = directory ++ [name] := parts_of_locate_join leads part proper found
      split at written
      · cases written
      · cases written
        rw [here]
  · cases written
  · cases written

/-- A file removed from a directory is no longer under its name there. -/
theorem remove_join {after : Files} (removed : files.remove (Path.join path name) = .ok after) :
    after = { files with
      contents := files.contents.filter fun entry => entry.1 != directory ++ [name] } := by
  simp only [remove] at removed
  split at removed
  · next parts _ found =>
      have here : parts = directory ++ [name] := parts_of_locate_join leads part proper found
      cases removed
      rw [here]
  · cases removed
  · cases removed
  · cases removed

end Child

/-- The files directly in a directory, in the order in which they were made. -/
def held (directory : Parts) (contents : List (Parts × ByteArray)) : List (String × ByteArray) :=
  contents.filterMap fun (parts, content) =>
    (childOf? directory parts).map fun name => (name, content)

theorem filesIn_of_locate (located : files.locate path = .ok (.directory directory)) :
    files.filesIn path
      = .ok ((held directory files.contents).mergeSort fun left right =>
          !decide (right.1 < left.1)) := by
  rw [filesIn, located]
  rfl

theorem exists_locate_of_filesIn {found : List (String × ByteArray)}
    (read : files.filesIn path = .ok found) :
    ∃ directory, files.locate path = .ok (.directory directory) := by
  rw [filesIn] at read
  split at read
  · next directory located => exact ⟨directory, located⟩
  · cases read
  · cases read
  · cases read

theorem childOf?_eq_some_iff {parts : Parts} {name : String} :
    childOf? directory parts = some name ↔ parts = directory ++ [name] := by
  rcases List.eq_nil_or_concat' parts with rfl | ⟨front, last, rfl⟩
  · simp [childOf?]
  · simp only [childOf?, List.getLast?_append, List.getLast?_singleton, Option.some_or,
      List.dropLast_concat]
    by_cases here : front = directory
    · simp [here]
    · simp [here]

variable {name : String} {content : ByteArray} {contents : List (Parts × ByteArray)}

theorem held_cons_child (name : String) :
    held directory ((directory ++ [name], content) :: contents)
      = (name, content) :: held directory contents := by
  simp [held, childOf?_eq_some_iff.mpr]

theorem held_cons_other {parts : Parts} (other : childOf? directory parts = none) :
    held directory ((parts, content) :: contents) = held directory contents := by
  simp [held, other]

/-- A file that is put into a directory takes the place of the one of its name or the last
place. -/
theorem held_putContent (directory : Parts) (name : String) (content : ByteArray)
    (contents : List (Parts × ByteArray)) :
    (name ∉ (held directory contents).map Prod.fst
      ∧ held directory (putContent (directory ++ [name]) content contents)
          = held directory contents ++ [(name, content)])
    ∨ ∃ front old back, held directory contents = front ++ (name, old) :: back
      ∧ held directory (putContent (directory ++ [name]) content contents)
          = front ++ (name, content) :: back := by
  induction contents with
  | nil =>
      rw [putContent, held_cons_child]
      exact .inl ⟨List.not_mem_nil, rfl⟩
  | cons entry contents ih =>
      rcases entry with ⟨parts, old⟩
      rw [putContent]
      cases child : childOf? directory parts with
      | none =>
          have elsewhere : parts ≠ directory ++ [name] := by
            intro here
            rw [childOf?_eq_some_iff.mpr here] at child
            cases child
          rw [if_neg elsewhere, held_cons_other child, held_cons_other child]
          exact ih
      | some other =>
          obtain rfl := childOf?_eq_some_iff.mp child
          by_cases here : other = name
          · rw [if_pos (by rw [here]), here, held_cons_child, held_cons_child]
            exact .inr ⟨[], old, held directory contents, rfl, rfl⟩
          · rw [if_neg (by simp [here]), held_cons_child, held_cons_child]
            rcases ih with ⟨fresh, put⟩ | ⟨front, before, back, was, put⟩
            · refine .inl ⟨?_, by rw [put, List.cons_append]⟩
              rw [List.map_cons, List.mem_cons, not_or]
              exact ⟨Ne.symm here, fresh⟩
            · exact .inr ⟨(other, old) :: front, before, back, by rw [was, List.cons_append],
                by rw [put, List.cons_append]⟩

theorem held_filter (directory : Parts) (name : String) (contents : List (Parts × ByteArray)) :
    held directory (contents.filter fun entry => entry.1 != directory ++ [name])
      = (held directory contents).filter fun entry => entry.1 != name := by
  induction contents with
  | nil => rfl
  | cons entry contents ih =>
      rcases entry with ⟨parts, content⟩
      rw [List.filter_cons]
      cases child : childOf? directory parts with
      | none =>
          rw [held_cons_other child]
          split
          · rw [held_cons_other child, ih]
          · exact ih
      | some other =>
          obtain rfl := childOf?_eq_some_iff.mp child
          rw [held_cons_child, List.filter_cons]
          by_cases here : other = name
          · simp [here, ih]
          · simp [here, held_cons_child, ih]

/-- When no name is held twice, putting a file leaves the other names with their files. -/
theorem mem_held_putContent (distinct : ((held directory contents).map Prod.fst).Nodup)
    {entry : String × ByteArray} :
    entry ∈ held directory (putContent (directory ++ [name]) content contents)
      ↔ entry = (name, content) ∨ (entry ∈ held directory contents ∧ entry.1 ≠ name) := by
  rcases held_putContent directory name content contents with
    ⟨fresh, put⟩ | ⟨front, old, back, was, put⟩
  · have others : ∀ entry ∈ held directory contents, entry.1 ≠ name := by
      rintro entry member rfl
      exact fresh (List.mem_map_of_mem member)
    rw [put, List.mem_append, List.mem_singleton, or_comm]
    exact or_congr_right ⟨fun member => ⟨member, others entry member⟩, And.left⟩
  · rw [was, List.map_append, List.map_cons, List.nodup_middle, List.nodup_cons,
      ← List.map_append] at distinct
    have others : ∀ entry ∈ front ++ back, entry.1 ≠ name := by
      rintro entry member rfl
      exact distinct.1 (List.mem_map.mpr ⟨entry, member, rfl⟩)
    have same : entry ∈ front ++ back
        ↔ entry ∈ front ++ (name, old) :: back ∧ entry.1 ≠ name := by
      constructor
      · intro member
        refine ⟨?_, others entry member⟩
        rw [List.mem_append, List.mem_cons]
        exact (List.mem_append.mp member).imp_right .inr
      · rintro ⟨member, different⟩
        rw [List.mem_append, List.mem_cons] at member
        rcases member with first | rfl | last
        · exact List.mem_append_left _ first
        · exact absurd rfl different
        · exact List.mem_append_right _ last
    rw [put, was, ← same, List.mem_append, List.mem_cons, List.mem_append]
    exact or_left_comm

theorem nodup_held_putContent (distinct : ((held directory contents).map Prod.fst).Nodup) :
    ((held directory (putContent (directory ++ [name]) content contents)).map Prod.fst).Nodup := by
  rcases held_putContent directory name content contents with
    ⟨fresh, put⟩ | ⟨front, old, back, was, put⟩
  · rw [put, List.map_append]
    exact List.nodup_append_comm.mp (List.nodup_cons.mpr ⟨fresh, distinct⟩)
  · rw [was, List.map_append] at distinct
    rw [put, List.map_append]
    exact distinct

end Files

end TypedSheets
