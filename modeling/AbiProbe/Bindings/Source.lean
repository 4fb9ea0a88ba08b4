import AbiProbe.Bindings.Basic
import AbiProbe.Identifier
import AbiProbe.Text.Line

/-! # Bindings as source text

Bindings are written as one Rust declaration a line (`AbiProbe.Bindings.render`), in order, each
under an attribute that silences the lint its name would trip. A comment may stand above them.
-/

namespace AbiProbe

/-- How declarations are written. -/
structure EmissionStyle where
  /-- The visibility of every declaration; empty for none. -/
  visibility : String
  /-- Whether naming lints are silenced. -/
  allowNamingLints : Bool
  /-- The comment above the declarations. -/
  headerComment : Option String
deriving DecidableEq, Repr

/-- Public declarations with silenced lints and no comment. -/
def EmissionStyle.standard : EmissionStyle :=
  ⟨"pub", true, none⟩

namespace Bindings

/-- Whether a name needs no leave to name a type. -/
def isUpperCamelCase (name : String) : Bool :=
  name.toList.head?.any Char.isUpper && !name.toList.contains '_'

/-- The attribute that silences the lint on names of types. -/
def typeLint : String := "#[allow(non_camel_case_types)]"

/-- The attribute that silences the lint on names of constants. -/
def constantLint : String := "#[allow(non_upper_case_globals)]"

/-- The attribute that silences the lint a declaration would trip. -/
def lint? (name : String) : Item → Option String
  | .typeAlias _ => if isUpperCamelCase name then none else some typeLint
  | .signedConstant _ | .unsignedConstant _ =>
      if name.toList.any Char.isLower then some constantLint else none

/-- A visibility with the blank after it. -/
def visibilityMark (visibility : String) : String :=
  if visibility = "" then "" else visibility ++ " "

/-- The spelling of a name; a name without one stands as it is. -/
def spelling (name : String) : String :=
  (Identifier.rustSpelling? name).getD name

/-- The declaration of a name after its visibility. -/
def declaration (name : String) : Item → String
  | .typeAlias primitive => "type " ++ spelling name ++ " = " ++ primitive.name ++ ";"
  | .signedConstant value =>
      "const " ++ spelling name ++ ": i64 = " ++ Text.Decimal.ofInt value.toInt ++ ";"
  | .unsignedConstant value =>
      "const " ++ spelling name ++ ": u64 = " ++ Text.Decimal.ofNat value.toNat ++ ";"

/-- The lines of one item: its attribute, if it needs one, and its declaration. -/
def itemLines (style : EmissionStyle) (entry : String × Item) : List String :=
  (if style.allowNamingLints then (lint? entry.1 entry.2).toList else []) ++
    [visibilityMark style.visibility ++ declaration entry.1 entry.2]

/-- A line of a comment. -/
def commentLine (line : String) : String :=
  if line = "" then "//" else "// " ++ line

/-- The lines of a comment and the empty line under it. -/
def commentLines (comment : String) : List String :=
  (Text.linesOf comment).map commentLine ++ [""]

/-- The lines of the source text of bindings. -/
def sourceLines (bindings : Bindings) (style : EmissionStyle) : List String :=
  (style.headerComment.map commentLines).getD [] ++
    bindings.entries.flatMap (itemLines style)

/-- The source text of bindings. -/
def render (bindings : Bindings) (style : EmissionStyle) : String :=
  String.join ((bindings.sourceLines style).map (· ++ "\n"))

end Bindings

end AbiProbe
