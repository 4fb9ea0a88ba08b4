import AbiProbe.Probe.Event

/-! # What a journal does to a work directory

A work directory holds the entries of others and the scratch directories that are open. A
scratch directory is a fresh entry with a source in it, and with a program once the source
compiled; removing it takes away all of it, unless it cannot be removed.
-/

namespace AbiProbe

/-- An entry of a work directory. -/
inductive WorkDirEntry
  /-- An entry that is not of the probe's making. -/
  | foreign (name : String)
  /-- An open scratch directory, known by its serial number. -/
  | scratch (serial : Nat) (source : String) (hasProgram : Bool)
deriving DecidableEq, Repr

/-- The entries of a work directory, and how many scratch directories it has had. -/
structure WorkDir where
  entries : List WorkDirEntry
  opened : Nat
deriving DecidableEq, Repr

namespace WorkDir

/-- A work directory with the entries of others only. -/
def ofNames (names : List String) : WorkDir :=
  ⟨names.map .foreign, 0⟩

/-- Whether an entry is the scratch directory of a serial number. -/
def isScratch (serial : Nat) : WorkDirEntry → Bool
  | .foreign _ => false
  | .scratch other _ _ => other = serial

/-- The same scratch directory with a program in it. -/
def withProgram (serial : Nat) : WorkDirEntry → WorkDirEntry
  | .foreign name => .foreign name
  | .scratch other source hasProgram =>
      .scratch other source (hasProgram || other = serial)

/-- What one event does to a work directory. -/
def apply (dir : WorkDir) : Event → WorkDir
  | .scratchOpened source =>
      ⟨dir.entries ++ [.scratch (dir.opened + 1) source false], dir.opened + 1⟩
  | .compiled _ _ (.ok output) =>
      if output.status.isSuccess then
        { dir with entries := dir.entries.map (withProgram dir.opened) }
      else dir
  | .scratchClosed (.ok ()) =>
      { dir with entries := dir.entries.filter fun entry => !isScratch dir.opened entry }
  | _ => dir

/-- What the events of a journal do to a work directory, in order. -/
def replay (dir : WorkDir) (journal : List Event) : WorkDir :=
  journal.foldl apply dir

end WorkDir

end AbiProbe
