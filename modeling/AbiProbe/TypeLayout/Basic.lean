import AbiProbe.Primitive
import AbiProbe.Text.Decimal
import AbiProbe.Text.Diagnostic

/-! # The layout of a C type

What is known of one C type: its size, its alignment where the compiler can tell it, and for an
arithmetic type its kind and the primitive of the same representation.
-/

namespace AbiProbe

/-- Everything learned about one C type. -/
structure TypeLayout where
  /-- The type as it is written in C. -/
  cType : String
  /-- The size in bytes. -/
  size : UInt64
  /-- The alignment in bytes; `none` where the compiler cannot tell it. -/
  align : Option UInt64
  /-- The kind of an arithmetic type; `none` for any other type. -/
  kind : Option NumericKind
  /-- The primitive of the same representation. -/
  primitive : Option Primitive
deriving DecidableEq, Repr

namespace TypeLayout

/-- The layout whose primitive follows from its kind and size. -/
def ofKind (cType : String) (size : UInt64) (align : Option UInt64) (kind : Option NumericKind) :
    TypeLayout where
  cType := cType
  size := size
  align := align
  kind := kind
  primitive := kind.bind fun kind => Primitive.ofLayout? kind size

open Text in
/-- A layout in the words of a diagnostic. -/
def diagnostic (layout : TypeLayout) : String :=
  "TypeLayout " ++ Diagnostic.fields
    [Diagnostic.field "c_type" (quote layout.cType),
      Diagnostic.field "size" (Decimal.ofNat layout.size.toNat),
      Diagnostic.field "align"
        (Diagnostic.optional (layout.align.map fun align => Decimal.ofNat align.toNat)),
      Diagnostic.field "kind" (Diagnostic.optional (layout.kind.map NumericKind.label)),
      Diagnostic.field "rust" (Diagnostic.optional (layout.primitive.map Primitive.label))]

end TypeLayout

end AbiProbe
