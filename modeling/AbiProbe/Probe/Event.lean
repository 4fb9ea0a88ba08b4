import AbiProbe.FileTree
import AbiProbe.Log.Filter

/-! # What a program does

The journal of an inquiry lists in order what happened on the way to its outcome: the records it
put into its log, the commands it started, what it did in its work directory and what it wrote.
Whatever a program leaves behind is read off its journal.
-/

namespace AbiProbe

/-- One thing a program does. -/
inductive Event
  /-- A record appeared in the log. -/
  | logged (record : Log.Record)
  /-- A scratch directory was made in the work directory for a source, and the source written into
  it as far as that went. -/
  | scratchOpened (source : String)
  /-- The compiler was started on a source by a command, or could not be. -/
  | compiled (command : Command) (source : String) (result : CommandResult)
  /-- The program made from a source was started, or could not be. -/
  | ran (source : String) (result : CommandResult)
  /-- The scratch directory was removed with everything in it, or could not be. -/
  | scratchClosed (result : Except SystemError Unit)
  /-- Bytes went to the standard output. -/
  | printed (bytes : List UInt8)
  /-- A text that is not of the log went to the standard error. -/
  | complained (text : String)
  /-- A file was opened for writing, and then held some bytes. -/
  | wrote (location : Location) (content : List UInt8)
deriving Repr

namespace Event

/-- A start of the compiler or of a compiled program. -/
inductive Start
  | compile (source : String)
  | run
deriving DecidableEq, Repr

/-- The command an event starts, if it starts one. -/
def start? : Event → Option Start
  | compiled _ source _ => some (.compile source)
  | ran _ _ => some .run
  | _ => none

/-- Whether an event is a record in the log. -/
def isLogged : Event → Bool
  | logged _ => true
  | _ => false

end Event

/-- The commands a journal starts, in order. -/
def startsOf (journal : List Event) : List Event.Start :=
  journal.filterMap Event.start?

@[simp]
theorem startsOf_nil : startsOf [] = [] := rfl

/-- One journal after another starts the commands of both, in that order. -/
@[simp]
theorem startsOf_append (first second : List Event) :
    startsOf (first ++ second) = startsOf first ++ startsOf second :=
  List.filterMap_append

end AbiProbe
