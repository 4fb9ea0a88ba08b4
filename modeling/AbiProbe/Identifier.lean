/-! # C identifiers and their spelling in Rust

Generated declarations carry the names of the C program. A C identifier is spelled in Rust as
itself, or as a raw identifier where it is a keyword there
(`AbiProbe.Identifier.rustSpelling?`). A handful of keywords have no raw form, so those names
have no spelling at all.
-/

namespace AbiProbe.Identifier

/-- A letter or underscore, the first character of an identifier. -/
def isStart (c : Char) : Bool :=
  c.isAlpha || c = '_'

/-- A letter, digit or underscore, any later character of an identifier. -/
def isPart (c : Char) : Bool :=
  c.isAlphanum || c = '_'

/-- Whether a text is a C identifier. Letters and digits are those of ASCII. -/
def isIdentifier (name : String) : Bool :=
  match name.toList with
  | [] => false
  | first :: rest => isStart first && rest.all isPart

/-- The keywords of Rust, strict and reserved, of the 2024 edition. -/
def rustKeywords : List String :=
  ["abstract", "as", "async", "await", "become", "box", "break", "const", "continue", "crate",
    "do", "dyn", "else", "enum", "extern", "false", "final", "fn", "for", "gen", "if", "impl",
    "in", "let", "loop", "macro", "match", "mod", "move", "mut", "override", "priv", "pub", "ref",
    "return", "self", "Self", "static", "struct", "super", "trait", "true", "try", "type",
    "typeof", "unsafe", "unsized", "use", "virtual", "where", "while", "yield"]

/-- The names that not even a raw identifier can spell. -/
def unspellable : List String :=
  ["_", "crate", "self", "Self", "super"]

/-- The mark in front of a raw identifier. -/
def rawMark : String := "r#"

/-- The Rust spelling of a C identifier; `none` where there is no spelling. -/
def rustSpelling? (name : String) : Option String :=
  if !isIdentifier name || unspellable.contains name then none
  else if rustKeywords.contains name then some (rawMark ++ name)
  else some name

end AbiProbe.Identifier
