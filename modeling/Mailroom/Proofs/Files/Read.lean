import Mailroom.Level.File
import Mailroom.Program.File
import Mailroom.Proofs.Text.Lines
import Mailroom.Proofs.Text.Utf8

/-!
# Reading a text from a file

A text that is written to a file in UTF-8 and read again comes back with its line endings changed:
every carriage return is a line feed now, and one that stood before a line feed is gone. Programs
and levels do not show it. They are read line by line, and the lines, their numbers included, are
those of the text that was written.
-/

set_option autoImplicit false
set_option maxRecDepth 10000

namespace Mailroom

variable {files : Files.View} {path text : String}

/-! ## Only the lines count -/

theorem Program.load_eq_of_lines_eq {a b : String} (h : Text.lines a = Text.lines b)
    (header : String) : Program.load header a = Program.load header b := by
  rw [Program.load, Program.load, Text.sourceLines, Text.sourceLines, h]

theorem Level.ofText_eq_of_lines_eq {a b : String} (h : Text.lines a = Text.lines b) :
    Level.ofText a = Level.ofText b := by
  rw [Level.ofText, Level.ofText, Level.readSections, Level.readSections, Text.sourceLines,
    Text.sourceLines, h]

/-! ## From the file to the text -/

theorem Files.readText_of_readBytes (h : Files.readBytes files path = .ok text.toUTF8.data.toList) :
    Files.readText files path = .ok (String.ofList (Text.unifyNewlines text.toList)) := by
  have htext : Files.textOfBytes text.toUTF8.data.toList =
      .ok (String.ofList (Text.unifyNewlines text.toList)) := by
    rw [Files.textOfBytes, Text.decodeUtf8_toUTF8]
    rfl
  rw [Files.readText, h]
  simp only [htext]

theorem Program.ofFile_of_readText (h : Files.readText files path = .ok text) (header : String) :
    Program.ofFile header files path = (Program.load header text).mapError .load := by
  rw [Program.ofFile, h]
  cases hload : Program.load header text <;> simp only [hload, Except.mapError]

theorem Level.ofFile_of_readText [Yaml.Reach] (h : Files.readText files path = .ok text)
    (hpath : Level.isYamlPath path = false) :
    Level.ofFile files path = (Level.ofText text).mapError .level := by
  have hformat : Level.ofTextAt path text = Level.ofText text := if_neg (by simp [hpath])
  rw [Level.ofFile, h]
  cases hlevel : Level.ofText text <;> simp only [hformat, hlevel, Except.mapError]

/-- **A file is read as the text that was written to it.** Every text is read back from its UTF-8,
but for its line endings, which are line feeds then. The program or the fault that is loaded from
the file is that of the text itself, with its line, and so is the level, unless the name of the file
says that it is written in YAML. -/
theorem Files.file_reads_as_written_text [Yaml.Reach] (files : Files.View) (path text : String)
    (hfile : Files.readBytes files path = .ok text.toUTF8.data.toList) :
    Files.readText files path = .ok (String.ofList (Text.unifyNewlines text.toList)) ∧
      (∀ header, Program.ofFile header files path = (Program.load header text).mapError .load) ∧
      (Level.isYamlPath path = false →
        Level.ofFile files path = (Level.ofText text).mapError .level) := by
  have hread := Files.readText_of_readBytes hfile
  have hlines := Text.lines_unifyNewlines text
  refine ⟨hread, fun header => ?_, fun hpath => ?_⟩
  · rw [Program.ofFile_of_readText hread, Program.load_eq_of_lines_eq hlines]
  · rw [Level.ofFile_of_readText hread hpath, Level.ofText_eq_of_lines_eq hlines]

/-- The fifth line has a word of characters with two, three and four bytes, and the breaks before it
are of several kinds. As a level, the text is wrong on its first line already. -/
theorem Files.file_reads_as_written_text_with_strange_word :
    let text := "HRM\r\n\r\r\nINBOX\u2028é€😀\n"
    let files : Files.View := fun path =>
      if path = "notes.txt" then .file text.toUTF8.data.toList else .missing
    Files.readText files "notes.txt" = .ok "HRM\n\n\nINBOX\u2028é€😀\n" ∧
      Program.ofFile "HRM" files "notes.txt" =
        .error (.load ⟨some 5, .unexpectedToken "é€😀"⟩) ∧
      Level.ofFile files "notes.txt" =
        .error (.level (.level (.atLine 1 (.outsideSection "HRM")))) := by
  intro text files
  have htidy : Files.tidyPath "notes.txt" = "notes.txt" := by decide
  have hfile : Files.readBytes files "notes.txt" = .ok text.toUTF8.data.toList := by
    simp [Files.readBytes, htidy, files]
  have hunified : String.ofList (Text.unifyNewlines text.toList) = "HRM\n\n\nINBOX\u2028é€😀\n" := by
    decide
  have hlines : Text.lines text = ["HRM", "", "", "INBOX", "é€😀"] := by decide
  obtain ⟨hread, hprogram, hlevel⟩ := Files.file_reads_as_written_text files _ text hfile
  refine ⟨hunified ▸ hread, (hprogram "HRM").trans ?_, (hlevel (by decide)).trans ?_⟩
  · rw [Program.load, Text.sourceLines, hlines]
    rfl
  · rw [Level.ofText, Level.readSections, Text.sourceLines, hlines]
    rfl

end Mailroom
