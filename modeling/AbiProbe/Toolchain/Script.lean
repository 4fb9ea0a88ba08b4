import AbiProbe.Toolchain.Output

/-! # Scripted toolchains

A script stands for a compiler: the first of its rules all of whose texts occur in a source says
what compiling that source and running the result leave. A source no rule speaks of does not
compile.
-/

namespace AbiProbe

/-- Whether a part occurs in a text. -/
def occursIn (part : List Char) : List Char → Bool
  | [] => part.isEmpty
  | c :: rest => part.isPrefixOf (c :: rest) || occursIn part rest

namespace Toolchain

/-- What a toolchain leaves for the sources in which some texts occur. -/
structure Rule where
  /-- The texts that must occur in the source. -/
  mentions : List String
  /-- What compiling leaves. -/
  compile : CommandResult
  /-- What running leaves. -/
  run : CommandResult

/-- Whether a rule speaks of a source. -/
def Rule.appliesTo (rule : Rule) (source : String) : Bool :=
  rule.mentions.all fun part => occursIn part.toList source.toList

/-- The output of a command that ended with an exit code and printed texts. -/
def printed (code : UInt8) (stdout stderr : String) : Output :=
  ⟨.code code, Text.Utf8.encode stdout, Text.Utf8.encode stderr⟩

/-- The toolchain of a script. -/
def ofScript (script : List Rule) : Toolchain where
  compile source :=
    match script.find? (·.appliesTo source) with
    | some rule => rule.compile
    | none => .ok (printed 1 "" "no rule\n")
  run source :=
    match script.find? (·.appliesTo source) with
    | some rule => rule.run
    | none => .ok (printed 0 "" "")

end Toolchain

end AbiProbe
