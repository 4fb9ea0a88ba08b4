import AbiProbe.Text.Decimal
import AbiProbe.Text.Diagnostic
import AbiProbe.Toolchain.SystemError.Table

/-! # Errors of the system

A command that cannot be started and a file that cannot be used are reported by the number of a
system error, or by a text of their own. An error about a path may name the path.
-/

namespace AbiProbe

/-- Why the system refused a request. -/
inductive SystemError
  /-- A numbered error. -/
  | numbered (number : Int)
  /-- An error of the caller's own. -/
  | custom (text : String)
  /-- Data the system does not take, with a kind and a fixed text. -/
  | refused (kind text : String)
  /-- An error about a path, with the path. -/
  | atPath (path : String) (reason : SystemError)
deriving DecidableEq, Repr

namespace SystemError

/-- A file or directory that does not exist. -/
def notFound : SystemError := .numbered 2

/-- A path through something that is no directory. -/
def notDirectory : SystemError := .numbered 20

/-- A directory where a file is asked for. -/
def isDirectory : SystemError := .numbered 21

/-- A name or a path with too many bytes. -/
def nameTooLong : SystemError := .numbered 36

/-- Words of a command with too many bytes. -/
def wordsTooLong : SystemError := .numbered 7

/-- A file whose bytes are no text. -/
def notText : SystemError := .refused "InvalidData" "stream did not contain valid UTF-8"

/-- A path with a NUL character in it. -/
def nulInPath : SystemError :=
  .refused "InvalidInput" "file name contained an unexpected NUL byte"

/-- The kind and text of a numbered error. -/
def describe (number : Int) : String × String :=
  match known.find? fun row => row.1 = number with
  | some (_, description) => description
  | none => (otherKind, "Unknown error " ++ Text.Decimal.ofInt number)

/-- The kind of an error. -/
def kind : SystemError → String
  | numbered number => (describe number).1
  | custom _ => "Other"
  | refused kind _ => kind
  | atPath _ reason => reason.kind

/-- An error as it is told to the user. -/
def message : SystemError → String
  | numbered number =>
      (describe number).2 ++ " (os error " ++ Text.Decimal.ofInt number ++ ")"
  | custom text => text
  | refused _ text => text
  | atPath path reason => reason.message ++ " at path " ++ Text.quote path

open Text in
/-- An error in the words of a diagnostic. -/
def diagnostic : SystemError → String
  | numbered number =>
      "Os " ++ Diagnostic.fields
        [Diagnostic.field "code" (Decimal.ofInt number),
          Diagnostic.field "kind" (kind (numbered number)),
          Diagnostic.field "message" (quote (describe number).2)]
  | custom text =>
      "Custom " ++ Diagnostic.fields
        [Diagnostic.field "kind" (kind (custom text)), Diagnostic.field "error" (quote text)]
  | refused kind text =>
      "Error " ++ Diagnostic.fields
        [Diagnostic.field "kind" kind, Diagnostic.field "message" (quote text)]
  | atPath path reason =>
      let located := "PathError " ++ Diagnostic.fields
        [Diagnostic.field "path" (quote path), Diagnostic.field "err" reason.diagnostic]
      "Custom " ++ Diagnostic.fields
        [Diagnostic.field "kind" reason.kind, Diagnostic.field "error" located]

end SystemError

end AbiProbe
