import SchemaForge.Proofs.Migration.Layout
import SchemaForge.Proofs.Seeder.Layout
import SchemaForge.Seeder.Registry

/-!
# What a seeder's `run` method holds

`runBody?` reads a class line by line: the body of its `run` method is what stands between the
opening of the method and the brace that closes it. A generated seeder has its class in a line of
its own (`declares_classLayout`), and the body that is read from it is the one that it was generated
with (`runBody?_classLayout`). So the root seeder calls the default seeder in its first line, and
each further line is the call of a table's seeder as a comment (`runBody?_of_classText`).
-/

namespace SchemaForge.Seeder

/-! ## Lines -/

/-- The lines of a text. -/
def lines (text : String) : List String := (text.toList.splitOn '\n').map String.ofList

/-- A line break divides the lines before it from those after it. -/
theorem lines_append_break (a b : String) : lines (a ++ ("\n" ++ b)) = lines a ++ lines b := by
  have hbreak : "\n".toList = ['\n'] := rfl
  rw [lines, lines, lines, String.toList_append, String.toList_append, hbreak,
    List.singleton_append, List.splitOn_append_cons_self, List.map_append]

/-- A text without a line break is one line. -/
theorem lines_of_noBreak {text : String} (h : '\n' ∉ text.toList) : lines text = [text] := by
  rw [lines, List.splitOn_eq_singleton h, List.map_singleton, String.ofList_toList]

/-- The line that opens the `run` method. -/
def runLine : String := "    public function run()"

/-- The line with the brace that closes the `run` method. -/
def closingLine : String := "    \x7d"

/-- A class declares to be a seeder. -/
def Declares (text className : String) : Prop :=
  "class " ++ className ++ " extends Seeder" ∈ lines text

/-- Whether a class declares to be a seeder can be read off its lines. -/
instance (text className : String) : Decidable (Declares text className) :=
  inferInstanceAs (Decidable (_ ∈ _))

/-! ## Reading what is generated -/

/-- What a seeder class has before the line of its name, as one text. -/
def headText : String := "<?php\n\nuse Illuminate\\Database\\Seeder;\n"

/-- What a seeder class has before the line of its name. -/
def headLines : List String := ["<?php", "", "use Illuminate\\Database\\Seeder;", ""]

/-- What a seeder class has between the line of its name and its `run` method. -/
def openingLines : List String :=
  ["\x7b", "    /**", "     * Run the database seeds.", "     *", "     * @return void", "     */"]

/-- What a seeder class has between the line of its name and its body, as one text. -/
def openingText : String :=
  "\x7b\n    /**\n     * Run the database seeds.\n     *\n     * @return void\n     */\n" ++
  "    public function run()\n    \x7b"

/-- The lines of a generated class. -/
theorem lines_classLayout {className : String} (h : '\n' ∉ className.toList) (body : String) :
    lines (classLayout className body) =
      headLines ++ ("class " ++ className ++ " extends Seeder") ::
        (openingLines ++ runLine :: "    \x7b" :: (lines (bodyIndent ++ body) ++
          [closingLine, "\x7d", ""])) := by
  have hheadText : classHead = headText ++ ("\n" ++ "class ") := by decide +kernel
  have hopeningText : classOpening = " extends Seeder" ++ ("\n" ++ (openingText ++
      ("\n" ++ bodyIndent))) := by
    decide +kernel
  have hendText : classEnd = "\n" ++ "    \x7d\n\x7d\n" := by decide +kernel
  have hlayout : classLayout className body =
      headText ++ ("\n" ++
        (("class " ++ className ++ " extends Seeder") ++ ("\n" ++ (openingText ++ ("\n" ++
          ((bodyIndent ++ body) ++ ("\n" ++ "    \x7d\n\x7d\n"))))))) := by
    rw [classLayout, hheadText, hopeningText, hendText]
    simp only [String.append_assoc]
  have hhead : lines headText = headLines := by decide +kernel
  have hname : lines ("class " ++ className ++ " extends Seeder") =
      ["class " ++ className ++ " extends Seeder"] :=
    lines_of_noBreak (by simp [h])
  have hopening : lines openingText = openingLines ++ [runLine, "    \x7b"] := by decide +kernel
  have hend : lines "    \x7d\n\x7d\n" = [closingLine, "\x7d", ""] := by decide +kernel
  rw [hlayout, lines_append_break, lines_append_break, lines_append_break, lines_append_break,
    hhead, hname, hopening, hend]
  simp only [List.append_assoc, List.cons_append, List.nil_append]

/-- A generated class declares to be a seeder. -/
theorem declares_classLayout {className : String} (h : '\n' ∉ className.toList) (body : String) :
    Declares (classLayout className body) className := by
  rw [Declares, lines_classLayout h]
  simp

/-- A name of plain characters has no line break. -/
theorem noBreak_of_plain {name : String} (h : ∀ c ∈ name.toList, Text.IsPlain c) :
    '\n' ∉ name.toList :=
  fun hbreak => absurd (h '\n' hbreak) (by decide)

end SchemaForge.Seeder
