import AbiProbe.Text.Quoted

/-! # The notation of values in diagnostics

Diagnostics name a value by its parts: a list between brackets, a record by its name and its
fields between braces, a variant by its name and its content between parentheses.
-/

namespace AbiProbe.Text.Diagnostic

/-- Parts separated by a comma and a space. -/
def separated (parts : List String) : String :=
  String.intercalate ", " parts

/-- A list. -/
def list (parts : List String) : String :=
  "[" ++ separated parts ++ "]"

/-- A list of texts. -/
def texts (parts : List String) : String :=
  list (parts.map quote)

/-- Fields between braces. -/
def fields (parts : List String) : String :=
  "\x7b " ++ separated parts ++ " \x7d"

/-- A field of a record. -/
def field (name value : String) : String :=
  name ++ ": " ++ value

/-- A variant with content. -/
def variant (name content : String) : String :=
  name ++ "(" ++ content ++ ")"

/-- A value that may be missing. -/
def optional (value : Option String) : String :=
  match value with
  | some value => variant "Some" value
  | none => "None"

end AbiProbe.Text.Diagnostic
