import ActionPlan.Text.LetterCase
import ActionPlan.Text.Search

/-!
# File Wording

Some phrases settle what an instruction is about before any plan exists: one that
speaks of creating a file has to end in a file being written, and one that speaks of
reading a file may not change anything.

## Main definitions

* `Instruction.lowered`: The text that keywords are looked for in.
* `Instruction.wantsFileCreated`: The wording of creating a file.
* `Instruction.wantsFileRead`: The wording of reading a file.
-/

namespace ActionPlan

namespace Instruction

/-- The text that keywords are looked for in. -/
def lowered (instruction : String) : List Char :=
  Text.lower instruction.toList

/-- The phrases of creating a file. -/
def fileCreationPhrases : List String :=
  ["create file", "write file", "save file", "new file", "file with text", "make file",
    "generate file"]

/-- The phrases of reading a file. -/
def fileReadingPhrases : List String :=
  ["read file", "read text from"]

/-- The instruction speaks of creating a file. -/
def wantsFileCreated (instruction : String) : Bool :=
  Text.mentionsAny (lowered instruction) fileCreationPhrases

/-- The instruction speaks of reading a file. -/
def wantsFileRead (instruction : String) : Bool :=
  Text.mentionsAny (lowered instruction) fileReadingPhrases

end Instruction

end ActionPlan
