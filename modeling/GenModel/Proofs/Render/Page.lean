import GenModel.Proofs.Text.Marks
import GenModel.Render.CSharp

/-!
# What a page determines

All pages of a language are laid out in the same way: lines that depend only on the settings, a
paragraph of imports that may be missing, again lines that depend only on the settings, and the
declaration. The imports of two pages may differ in number, but an import begins with a character
with which nothing begins that can stand in its place. So the texts of two such pages are equal
only if the lines of the declarations are (`LaidOut.declaration_inj`).
-/

namespace GenModel

namespace Text

/-- The text begins with the character. -/
def Begins (c : Char) (text : String) : Prop :=
  text.toList.head? = some c

instance (c : Char) (text : String) : Decidable (Begins c text) :=
  inferInstanceAs (Decidable (text.toList.head? = some c))

theorem Begins.append {c : Char} {text : String} (begins : Begins c text) (rest : String) :
    Begins c (text ++ rest) := by
  rw [Begins, String.toList_append, List.head?_append, begins, Option.some_or]

theorem Begins.ne_empty {c : Char} {text : String} (begins : Begins c text) : text ≠ "" := by
  rintro rfl
  simp [Begins] at begins

theorem Begins.not_begins {c other : Char} {text : String} (begins : Begins c text)
    (different : c ≠ other) : ¬Begins other text := by
  intro same
  exact different (Option.some.inj (begins.symm.trans same))

theorem Begins.joinLines {c : Char} {line : String} (begins : Begins c line)
    (others : List String) : Begins c (joinLines (line :: others)) := by
  by_cases last : others = []
  · rwa [last, Text.joinLines, String.intercalate_singleton]
  · rw [joinLines_cons last, String.append_assoc]
    exact begins.append _

end Text

theorem unlines_paragraph_nil (rest : String) : Text.unlines (paragraph []) ++ rest = rest :=
  String.empty_append

theorem paragraph_cons (line : String) (others : List String) :
    paragraph (line :: others) = line :: others ++ [""] :=
  rfl

/-- What follows a paragraph is determined, if it cannot be taken for a line of the paragraph. -/
theorem paragraph_append_inj {mark : Char} {first second : List String} {rest tail : String}
    (firstLines : ∀ line ∈ first, Text.Begins mark line ∧ Text.IsLine line)
    (secondLines : ∀ line ∈ second, Text.Begins mark line ∧ Text.IsLine line)
    (restOther : ¬Text.Begins mark rest) (tailOther : ¬Text.Begins mark tail)
    (same : Text.unlines (paragraph first) ++ rest = Text.unlines (paragraph second) ++ tail) :
    rest = tail := by
  have begins {line : String} {others : List String} {back : String}
      (lineBegins : Text.Begins mark line) :
      Text.Begins mark (Text.unlines (paragraph (line :: others)) ++ back) := by
    rw [paragraph_cons, List.cons_append, Text.unlines, String.append_assoc, String.append_assoc]
    exact lineBegins.append _
  cases first with
  | nil =>
      cases second with
      | nil => simpa only [unlines_paragraph_nil] using same
      | cons line others =>
          rw [unlines_paragraph_nil] at same
          exact absurd (same ▸ begins (secondLines line List.mem_cons_self).1) restOther
  | cons line others =>
      cases second with
      | nil =>
          rw [unlines_paragraph_nil] at same
          exact absurd (same ▸ begins (firstLines line List.mem_cons_self).1) tailOther
      | cons secondLine more =>
          rw [paragraph_cons, paragraph_cons] at same
          refine (Text.unlines_append_inj ?_ ?_ same).2
          · intro written mem
            exact ⟨(firstLines written mem).1.ne_empty, (firstLines written mem).2⟩
          · intro written mem
            exact ⟨(secondLines written mem).1.ne_empty, (secondLines written mem).2⟩

namespace Settings

/-- The text that names the package, if there is one. -/
def packageClause (settings : Settings) : String :=
  match settings.package? with
  | some name => "package " ++ name ++ "\n\n"
  | none => ""

theorem unlines_packageLines (settings : Settings) :
    Text.unlines settings.packageLines = settings.packageClause := by
  rw [packageLines, packageClause]
  cases settings.package? with
  | none => rfl
  | some name => simp [Text.unlines, String.append_assoc]

end Settings

namespace Page

/-- The page has imports that begin with the mark, between the given lines, and a declaration that
cannot be taken for an import. -/
structure LaidOut (page : Page) (mark : Char) (front back : List String) : Prop where
  opening : ∃ imports, page.opening = front ++ paragraph imports ++ back ∧
    ∀ line ∈ imports, Text.Begins mark line ∧ Text.IsLine line
  other : ¬Text.Begins mark (Text.unlines back ++ Text.joinLines page.declaration)
  nonempty : page.declaration ≠ []
  areLines : ∀ line ∈ page.declaration, Text.IsLine line

/-- The text of a page determines the lines of its declaration. -/
theorem LaidOut.declaration_inj {first second : Page} {mark : Char} {front back : List String}
    (firstLaidOut : first.LaidOut mark front back) (secondLaidOut : second.LaidOut mark front back)
    (same : first.text = second.text) : first.declaration = second.declaration := by
  rcases firstLaidOut with ⟨⟨imports, opening, importLines⟩, other, nonempty, areLines⟩
  rcases secondLaidOut with ⟨⟨secondImports, secondOpening, secondImportLines⟩, secondOther,
    secondNonempty, secondAreLines⟩
  simp only [text, opening, secondOpening, Text.unlines_append, String.append_assoc,
    String.append_right_inj] at same
  have sameRest := paragraph_append_inj importLines secondImportLines other secondOther same
  rw [String.append_right_inj] at sameRest
  exact Text.joinLines_inj nonempty secondNonempty areLines secondAreLines sameRest

theorem laidOut_of_begins {mark c : Char} {front imports others : List String} {line : String}
    (importLines : ∀ written ∈ imports, Text.Begins mark written ∧ Text.IsLine written)
    (begins : Text.Begins c line) (different : c ≠ mark)
    (areLines : ∀ written ∈ line :: others, Text.IsLine written) :
    LaidOut ⟨front ++ paragraph imports, line :: others⟩ mark front [] := by
  refine ⟨⟨imports, (List.append_nil _).symm, importLines⟩, ?_, List.cons_ne_nil _ _, areLines⟩
  rw [Text.unlines, String.empty_append]
  exact (begins.joinLines others).not_begins different

end Page

namespace CSharp

/-- The lines with which the namespace begins, if there is one. -/
def namespaceLines (settings : Settings) : List String :=
  match settings.package? with
  | some name => ["namespace " ++ name, "\x7b"]
  | none => []

/-- The text with which the namespace begins, if there is one. -/
def namespaceClause (settings : Settings) : String :=
  match settings.package? with
  | some name => "namespace " ++ name ++ "\n\x7b\n"
  | none => ""

theorem unlines_namespaceLines (settings : Settings) :
    Text.unlines (namespaceLines settings) = namespaceClause settings := by
  rw [namespaceLines, namespaceClause]
  cases settings.package? with
  | none => rfl
  | some name => simp [Text.unlines, String.append_assoc]

theorem isLine_of_mem_enclose (settings : Settings) {declaration : List String}
    (areLines : ∀ line ∈ declaration, Text.IsLine line) :
    ∀ line ∈ enclose settings declaration, Text.IsLine line := by
  rw [enclose]
  cases settings.package? with
  | none => exact areLines
  | some name =>
      simp only [List.forall_mem_append, List.forall_mem_map, List.forall_mem_cons,
        Text.isLine_append_iff]
      refine ⟨?_, by decide, by simp⟩
      intro line mem
      exact ⟨by decide, areLines line mem⟩

theorem enclose_inj (settings : Settings) {declaration other : List String}
    (same : enclose settings declaration = enclose settings other) : declaration = other := by
  rw [enclose, enclose] at same
  cases found : settings.package? with
  | none => simpa [found] using same
  | some name =>
      simp only [found, List.append_cancel_right_eq] at same
      refine (List.map_inj_right ?_).mp same
      intro line otherLine lineEq
      exact (String.append_right_inj "\t").mp lineEq

theorem not_begins_enclose (settings : Settings) {line : String} (others : List String)
    (begins : Text.Begins 'p' line) :
    ¬Text.Begins 'u' (Text.unlines (namespaceLines settings) ++
      Text.joinLines (enclose settings (line :: others))) := by
  rw [namespaceLines, enclose]
  cases settings.package? with
  | none =>
      rw [Text.unlines, String.empty_append]
      exact (begins.joinLines others).not_begins (by decide)
  | some name =>
      have opening : Text.Begins 'n' "namespace " := by
        decide
      rw [Text.unlines, String.append_assoc, String.append_assoc, String.append_assoc]
      exact (opening.append _).not_begins (by decide)

theorem enclose_ne_nil (settings : Settings) (line : String) (others : List String) :
    enclose settings (line :: others) ≠ [] := by
  rw [enclose]
  cases settings.package? <;> simp

/-- What stands before each line of a declaration. -/
def indent (settings : Settings) : String :=
  match settings.package? with
  | some _ => "\t"
  | none => ""

theorem enclose_cons (settings : Settings) (line : String) {others : List String}
    (nonempty : others ≠ []) :
    ∃ rest, rest ≠ [] ∧ enclose settings (line :: others) = (indent settings ++ line) :: rest := by
  rw [enclose, indent]
  cases settings.package? with
  | none => exact ⟨others, nonempty, by rw [String.empty_append]⟩
  | some name => exact ⟨_, by simp, rfl⟩

theorem laidOut_enclose (settings : Settings) {names others : List String} {line : String}
    (areDirectives : ∀ name ∈ names, Text.IsLine name) (begins : Text.Begins 'p' line)
    (areLines : ∀ written ∈ line :: others, Text.IsLine written) :
    Page.LaidOut ⟨opening settings names, enclose settings (line :: others)⟩ 'u'
      (bannerLines settings.generatedAt) (namespaceLines settings) := by
  refine ⟨⟨_, rfl, ?_⟩, not_begins_enclose settings others begins,
    enclose_ne_nil settings line others, isLine_of_mem_enclose settings areLines⟩
  rw [List.forall_mem_map]
  intro name mem
  refine ⟨((by decide : Text.Begins 'u' "using ").append _).append _, ?_⟩
  simp only [Text.isLine_append_iff]
  exact ⟨⟨by decide, areDirectives name mem⟩, by decide⟩

end CSharp

end GenModel
