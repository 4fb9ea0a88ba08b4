/-! # Kinds of arithmetic types -/

namespace AbiProbe

/-- How the values of an arithmetic type are represented. -/
inductive NumericKind
  /-- A two's-complement integer. -/
  | signedInt
  /-- An integer without sign. -/
  | unsignedInt
  /-- A binary floating-point number. -/
  | float
deriving DecidableEq, Repr

namespace NumericKind

/-- The kinds in their listed order. -/
def all : List NumericKind :=
  [signedInt, unsignedInt, float]

/-- Whether values of the kind can be negative. -/
def isSigned : NumericKind → Bool
  | unsignedInt => false
  | signedInt | float => true

/-- The name of a kind in a JSON document. -/
def name : NumericKind → String
  | signedInt => "signed_int"
  | unsignedInt => "unsigned_int"
  | float => "float"

/-- The name of a kind in a diagnostic text. -/
def label : NumericKind → String
  | signedInt => "SignedInt"
  | unsignedInt => "UnsignedInt"
  | float => "Float"

/-- The kind of a given name. -/
def ofName? (name : String) : Option NumericKind :=
  all.find? fun kind => kind.name = name

end NumericKind

end AbiProbe
