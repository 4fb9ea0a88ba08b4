import AbiProbe.Text.Blank
import AbiProbe.Text.Decimal

/-! # Aspects of a C name that a program can print

Each aspect of a type, macro or constant has a program that prints it as one value and a rule by
which that value is read back (`AbiProbe.Aspect.body`, `AbiProbe.Aspect.read?`).
-/

namespace AbiProbe

/-- What can be asked of a C name. -/
inductive Aspect
  /-- The size of a type in bytes. -/
  | size
  /-- The alignment of a type in bytes. -/
  | alignment
  /-- Whether an arithmetic type has negative values. -/
  | signedness
  /-- Whether an arithmetic type has fractional values. -/
  | floatingPoint
  /-- Whether a macro is defined. -/
  | definedness
  /-- The value of an integer constant, read as signed. -/
  | signedValue
  /-- The value of an integer constant, read as unsigned. -/
  | unsignedValue
deriving DecidableEq, Repr

namespace Aspect

/-- The type of a printed value. -/
inductive Answer
  | size
  | truth
  | signed
  | unsigned
deriving DecidableEq, Repr

/-- The values of a type. -/
abbrev Answer.Value : Answer → Type
  | size => UInt64
  | truth => Bool
  | signed => Int64
  | unsigned => UInt64

/-- The name of the type of a printed value. -/
def Answer.name : Answer → String
  | size => "usize"
  | truth => "bool"
  | signed => "i64"
  | unsigned => "u64"

/-- Reads a truth value. -/
def truth? (text : List Char) : Option Bool :=
  if text = "true".toList then some true
  else if text = "false".toList then some false
  else none

/-- Reads a value of a type from a trimmed text. -/
def Answer.read? : (answer : Answer) → List Char → Option answer.Value
  | size, text => Text.Decimal.unsigned? text
  | truth, text => truth? text
  | signed, text => Text.Decimal.signed? text
  | unsigned, text => Text.Decimal.unsigned? text

/-- The type of the value an aspect is printed as. -/
def answer : Aspect → Answer
  | size | alignment => .size
  | signedness | floatingPoint | definedness => .truth
  | signedValue => .signed
  | unsignedValue => .unsigned

/-- The headers the program of an aspect needs besides those of the probe. -/
def headers : Aspect → List String
  | alignment => ["<stdio.h>", "<stdalign.h>"]
  | _ => ["<stdio.h>"]

/-- Statements that print one value in a given format. -/
def printing (format value : String) : String :=
  "printf(\"" ++ format ++ "\\n\", " ++ value ++ ");\nreturn 0;"

/-- Statements that print whether a condition holds. -/
def printingTruth (condition : String) : String :=
  printing "%s" ("(" ++ condition ++ ") ? \"true\" : \"false\"")

/-- The statements that print an aspect of a name. -/
def body : Aspect → String → String
  | size, name => printing "%zu" ("sizeof(" ++ name ++ ")")
  | alignment, name => printing "%zu" ("alignof(" ++ name ++ ")")
  | signedness, name => printingTruth ("((" ++ name ++ ")-1) < 0")
  | floatingPoint, name => printingTruth ("((" ++ name ++ ")1.5) != ((" ++ name ++ ")1)")
  | definedness, name =>
      "#ifdef " ++ name ++
        "\nprintf(\"true\\n\");\n#else\nprintf(\"false\\n\");\n#endif\nreturn 0;"
  | signedValue, name => printing "%lld" ("(long long)(" ++ name ++ ")")
  | unsignedValue, name => printing "%llu" ("(unsigned long long)(" ++ name ++ ")")

end Aspect

end AbiProbe
