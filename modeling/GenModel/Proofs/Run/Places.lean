import GenModel.Host
import GenModel.Proofs.Disk.Changes
import GenModel.Proofs.Instant
import GenModel.Proofs.Path
import GenModel.Proofs.Source.Grammar

/-!
# The places of generated files

The name of a language, the stamp of a time and the file name of a declaration are all plain names:
none of them holds a slash or leads to another folder. So a generated file has its place exactly
three names below the place that the root leads to, whatever the root is.
-/

namespace GenModel

namespace Path

theorem isName_of_mem {name : String} {c : Char} (mem : c ∈ name.toList) (notDot : c ≠ '.')
    (noSlash : '/' ∉ name.toList) : IsName name := by
  refine ⟨?_, noSlash, ?_, ?_⟩
  all_goals
    rintro rfl
    simp [notDot] at mem

end Path

namespace Language

theorem isName_name (language : Language) : Path.IsName language.name := by
  cases language <;> exact ⟨by decide, by decide, by decide, by decide⟩

theorem isName_fileName (language : Language) {declarationName : String}
    (identifier : Source.Identifier declarationName) :
    Path.IsName (language.fileName declarationName) := by
  have noSlash : '/' ∉ declarationName.toList := by
    intro mem
    exact (identifier.isLetterOrDigit '/' mem).ne_of_not_rest (by decide) rfl
  rcases identifier with ⟨first, rest, characters, isLetter, -⟩
  have plainExtension : '/' ∉ language.extension.toList := by cases language <;> decide
  apply @Path.isName_of_mem _ first
  · simp [fileName, characters]
  · rintro rfl
    exact absurd (Source.isIdentifierStart_iff.mpr isLetter) (by decide)
  · intro mem
    simp only [fileName, String.toList_append, List.mem_append] at mem
    rcases mem with (mem | mem) | mem
    · exact noSlash mem
    · exact absurd mem (by decide)
    · exact plainExtension mem

end Language

namespace Instant

theorem slash_not_mem_timestamp (instant : Instant) : '/' ∉ instant.timestamp.toList := by
  intro mem
  exact absurd (isStampText_timestamp instant '/' mem) (by decide)

theorem isName_directoryStamp (instant : Instant) : Path.IsName instant.directoryStamp := by
  apply @Path.isName_of_mem _ 'Z'
  · simp only [directoryStamp, String.toList_ofList, List.mem_map]
    exact ⟨'Z', by simp [timestamp], rfl⟩
  · decide
  · simp only [directoryStamp, String.toList_ofList, List.mem_map, not_exists, not_and]
    intro c mem slash
    by_cases colon : c = ':'
    · simp [colon] at slash
    · rw [if_neg colon] at slash
      subst c
      exact slash_not_mem_timestamp instant mem

end Instant

section Folders

variable (root : String) (generatedAt : Instant) (language : Language)

theorem segments_outputFolder :
    Path.segments (outputFolder root generatedAt language.name) =
      Path.segments root ++ [language.name, generatedAt.directoryStamp] := by
  rw [outputFolder, Path.segments_join generatedAt.isName_directoryStamp,
    Path.segments_join language.isName_name, List.append_assoc]
  rfl

theorem start_outputFolder (disk : Disk) :
    disk.start (outputFolder root generatedAt language.name) = disk.start root := by
  rw [Disk.start, outputFolder, Path.isAbsolute_join generatedAt.isName_directoryStamp,
    Path.isAbsolute_join language.isName_name, Disk.start]

/-- The path of a file of a language. -/
def outputPath (fileName : String) : String :=
  Path.join (outputFolder root generatedAt language.name) fileName

/-- The place of a file of a language, seen from the place of the root. -/
def outputPlace (base : Location) (fileName : String) : Location :=
  base ++ [language.name, generatedAt.directoryStamp, fileName]

theorem place_outputPath (disk : Disk) {fileName : String} (isName : Path.IsName fileName) :
    disk.place (outputPath root generatedAt language fileName) =
      outputPlace generatedAt language (disk.place root) fileName := by
  have start : disk.start (outputPath root generatedAt language fileName) = disk.start root := by
    rw [Disk.start, outputPath, Path.isAbsolute_join isName, ← Disk.start, start_outputFolder]
  have stamp := generatedAt.isName_directoryStamp
  have folder := language.isName_name
  have split : Path.segments root ++ [language.name, generatedAt.directoryStamp] =
      Path.segments root ++ [language.name] ++ [generatedAt.directoryStamp] := by simp
  rw [Disk.place, start, outputPath, Path.segments_join isName, segments_outputFolder, outputPlace,
    Disk.destination_concat isName.notDot isName.notDots, split,
    Disk.destination_concat stamp.notDot stamp.notDots,
    Disk.destination_concat folder.notDot folder.notDots]
  simp [Disk.place]

variable {root generatedAt language}

theorem isPrefix_outputPlace (base : Location) (fileName : String) :
    base ++ [language.name, generatedAt.directoryStamp] <+:
      outputPlace generatedAt language base fileName :=
  ⟨[fileName], by simp [outputPlace]⟩

/-- Two files have one place only if they have one language and one name. -/
theorem outputPlace_inj {base : Location} {other : Language} {fileName otherName : String}
    (same : outputPlace generatedAt language base fileName =
      outputPlace generatedAt other base otherName) : language = other ∧ fileName = otherName := by
  simp only [outputPlace, List.append_cancel_left_eq, List.cons.injEq, and_true, true_and] at same
  refine ⟨?_, same.2⟩
  have names := same.1
  revert names
  cases language <;> cases other <;> decide

end Folders

end GenModel
