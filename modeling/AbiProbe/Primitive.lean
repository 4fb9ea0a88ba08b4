import AbiProbe.NumericKind
import AbiProbe.Text.Quoted

/-! # Fixed-width primitives

A scalar C type of a known kind and width has the representation of at most one Rust primitive
(`AbiProbe.Primitive.ofLayout?`). There is none for widths without a primitive, such as that of
a 16-byte integer.
-/

namespace AbiProbe

/-- A Rust primitive of guaranteed width. -/
inductive Primitive
  | i8
  | i16
  | i32
  | i64
  | u8
  | u16
  | u32
  | u64
  | f32
  | f64
deriving DecidableEq, Repr

namespace Primitive

/-- The primitives in their listed order. -/
def all : List Primitive :=
  [i8, i16, i32, i64, u8, u16, u32, u64, f32, f64]

/-- The Rust name of a primitive. -/
def name : Primitive → String
  | i8 => "i8"
  | i16 => "i16"
  | i32 => "i32"
  | i64 => "i64"
  | u8 => "u8"
  | u16 => "u16"
  | u32 => "u32"
  | u64 => "u64"
  | f32 => "f32"
  | f64 => "f64"

/-- The name of a primitive in a diagnostic text. -/
def label : Primitive → String
  | i8 => "I8"
  | i16 => "I16"
  | i32 => "I32"
  | i64 => "I64"
  | u8 => "U8"
  | u16 => "U16"
  | u32 => "U32"
  | u64 => "U64"
  | f32 => "F32"
  | f64 => "F64"

/-- The width of a primitive in bytes. -/
def size : Primitive → UInt64
  | i8 | u8 => 1
  | i16 | u16 => 2
  | i32 | u32 | f32 => 4
  | i64 | u64 | f64 => 8

/-- The kind of values a primitive holds. -/
def kind : Primitive → NumericKind
  | i8 | i16 | i32 | i64 => .signedInt
  | u8 | u16 | u32 | u64 => .unsignedInt
  | f32 | f64 => .float

/-- Whether a primitive holds negative values. -/
def isSigned (primitive : Primitive) : Bool :=
  primitive.kind.isSigned

/-- Whether a primitive holds integers. -/
def isInteger (primitive : Primitive) : Bool :=
  primitive.kind ≠ .float

/-- The primitive of a given kind and width. -/
def ofLayout? : NumericKind → UInt64 → Option Primitive
  | .signedInt, 1 => some i8
  | .signedInt, 2 => some i16
  | .signedInt, 4 => some i32
  | .signedInt, 8 => some i64
  | .unsignedInt, 1 => some u8
  | .unsignedInt, 2 => some u16
  | .unsignedInt, 4 => some u32
  | .unsignedInt, 8 => some u64
  | .float, 4 => some f32
  | .float, 8 => some f64
  | _, _ => none

/-- The primitive of a given name. -/
def ofName? (name : String) : Option Primitive :=
  all.find? fun primitive => primitive.name = name

/-- A text that names no primitive. -/
structure UnknownName where
  /-- The text. -/
  text : String
deriving DecidableEq, Repr

/-- The wording of an unknown name. -/
def UnknownName.message (unknown : UnknownName) : String :=
  "unknown Rust primitive: " ++ Text.quote unknown.text

/-- Reads the name of a primitive. -/
def parse (text : String) : Except UnknownName Primitive :=
  match ofName? text with
  | some primitive => .ok primitive
  | none => .error ⟨text⟩

@[simp]
theorem mem_all (primitive : Primitive) : primitive ∈ all := by
  cases primitive <;> decide

/-- A primitive is found by its name. -/
theorem ofName?_name (primitive : Primitive) : ofName? primitive.name = some primitive := by
  cases primitive <;> decide

/-- No two primitives share a name. -/
theorem name_injective {first second : Primitive} (same : first.name = second.name) :
    first = second := by
  have found := ofName?_name first
  rw [same, ofName?_name second] at found
  exact (Option.some.inj found).symm

/-- The kind and width of a primitive determine it. -/
theorem ofLayout?_eq_some_iff {kind : NumericKind} {size : UInt64} {primitive : Primitive} :
    ofLayout? kind size = some primitive ↔ primitive.kind = kind ∧ primitive.size = size := by
  constructor
  · intro found
    -- A row of the table for each primitive, and none for what is in no row.
    unfold ofLayout? at found
    split at found <;> cases found <;> exact ⟨rfl, rfl⟩
  · rintro ⟨rfl, rfl⟩
    cases primitive <;> rfl

end Primitive

end AbiProbe
