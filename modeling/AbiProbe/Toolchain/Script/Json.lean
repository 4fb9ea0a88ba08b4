import AbiProbe.Json.Reader
import AbiProbe.Toolchain.Script

/-! # Scripts in JSON

A script is an array of rules. A rule is an object with the texts it asks for (`when`) and the
responses of the compiler (`compile`) and of the program (`run`); a response is an object with an
exit code (`code`), or a signal (`signal`), or a system error (`error`), and with the texts printed
(`stdout`, `stderr`). What is left out is empty, and success.
-/

namespace AbiProbe.Toolchain

/-- The members of a response met so far. -/
structure ResponseDraft where
  code : Option UInt64
  signal : Option UInt64
  error : Option UInt64
  stdout : Option String
  stderr : Option String

namespace ResponseDraft

/-- No member met: a success without output. -/
def empty : ResponseDraft :=
  ⟨none, none, none, none, none⟩

/-- The response of a finished draft. -/
def finish (draft : ResponseDraft) : CommandResult :=
  match draft.error with
  | some number => .error (.numbered number.toNat)
  | none =>
      let status : ExitStatus := match draft.signal with
        | some number => .signal number.toNat false
        | none => .code (draft.code.getD 0).toUInt8
      .ok ⟨status, Text.Utf8.encode (draft.stdout.getD ""),
        Text.Utf8.encode (draft.stderr.getD "")⟩

/-- Reads the member of a given key. -/
def member (draft : ResponseDraft) (key : String) (input : List Char) :
    Except Json.Error (ResponseDraft × List Char) :=
  match key with
  | "code" => do
      let (code, rest) ← Json.onceOnly key draft.code (Json.unsigned "number") input
      return ({ draft with code }, rest)
  | "signal" => do
      let (signal, rest) ← Json.onceOnly key draft.signal (Json.unsigned "number") input
      return ({ draft with signal }, rest)
  | "error" => do
      let (error, rest) ← Json.onceOnly key draft.error (Json.unsigned "number") input
      return ({ draft with error }, rest)
  | "stdout" => do
      let (stdout, rest) ← Json.onceOnly key draft.stdout (Json.string "a string") input
      return ({ draft with stdout }, rest)
  | "stderr" => do
      let (stderr, rest) ← Json.onceOnly key draft.stderr (Json.string "a string") input
      return ({ draft with stderr }, rest)
  | _ => .error (.unknownField key ["code", "signal", "error", "stdout", "stderr"])

end ResponseDraft

/-- Reads an object of a given description. An array does not describe one. -/
def readObject {σ α : Type} (expected : String) (member : σ → String → Json.Reader σ) (empty : σ)
    (finish : σ → α) : Json.Reader α :=
  Json.record expected member empty (fun state => .ok (finish state)) fun _ =>
    .error (.invalidType .sequence expected)

/-- Reads a response. -/
def readResponse : Json.Reader CommandResult :=
  readObject "a response" ResponseDraft.member ResponseDraft.empty ResponseDraft.finish

/-- The members of a rule met so far. -/
structure RuleDraft where
  mentions : Option (List String)
  compile : Option CommandResult
  run : Option CommandResult

namespace RuleDraft

/-- No member met: a rule for every source. -/
def empty : RuleDraft :=
  ⟨none, none, none⟩

/-- The rule of a finished draft. -/
def finish (draft : RuleDraft) : Rule :=
  ⟨draft.mentions.getD [], draft.compile.getD ResponseDraft.empty.finish,
    draft.run.getD ResponseDraft.empty.finish⟩

/-- Reads the member of a given key. -/
def member (draft : RuleDraft) (key : String) (input : List Char) :
    Except Json.Error (RuleDraft × List Char) :=
  match key with
  | "when" => do
      let (mentions, rest) ←
        Json.onceOnly key draft.mentions (Json.array (Json.string "a string") "a sequence") input
      return ({ draft with mentions }, rest)
  | "compile" => do
      let (compile, rest) ← Json.onceOnly key draft.compile readResponse input
      return ({ draft with compile }, rest)
  | "run" => do
      let (run, rest) ← Json.onceOnly key draft.run readResponse input
      return ({ draft with run }, rest)
  | _ => .error (.unknownField key ["when", "compile", "run"])

end RuleDraft

/-- Reads a rule. -/
def readRule : Json.Reader Rule :=
  readObject "a rule" RuleDraft.member RuleDraft.empty RuleDraft.finish

/-- The script a JSON text describes. -/
def scriptOfJson (text : String) : Except Json.Error (List Rule) :=
  Json.document (Json.array readRule "a sequence") text

end AbiProbe.Toolchain
