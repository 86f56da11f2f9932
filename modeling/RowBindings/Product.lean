/-!
# The program's name

The name and version that generated files, the log and the command line show.
-/

namespace RowBindings

def productName : String := "dt-datamod-generator"

def productVersion : String := "0.1.0"

/-- The line that names the program at the top of a generated file. -/
def generatedBy : String :=
  "Generated by " ++ productName ++ " " ++ productVersion

end RowBindings
