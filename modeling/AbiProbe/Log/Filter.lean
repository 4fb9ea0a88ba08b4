import AbiProbe.Log.Directive

/-! # Which records are shown

A filter is a list of directives (`AbiProbe.Log.Directive`), each with the greatest detail it lets
through. The most specific directive for a record decides about it
(`AbiProbe.Log.Filter.shows`). Filters are asked for on the command line by their verbosity, or
else written in the environment (`AbiProbe.Log.Filter.ofText?`).
-/

namespace AbiProbe.Log

/-- A list of directives. -/
structure Filter where
  directives : List Directive
deriving DecidableEq, Repr

namespace Filter

/-- The filter that shows nothing. -/
def silent : Filter := ⟨[]⟩

/-- The filter of a single detail. -/
def ofLevel (level : Level) : Filter :=
  ⟨[{ Directive.everything with detail := level.detail }]⟩

/-- Reads a filter: directives between commas. -/
def ofText? (text : String) : Option Filter :=
  let parts := (text.toList.splitOnP (· = ',')).filter fun part => !part.isEmpty
  (parts.mapM Directive.ofText?).map Filter.mk

/-- The filter of a run: by the verbosity of its command line, or else by its environment.
Without either, and for a text that is no filter, warnings are shown. -/
def ofRun (verbosity : Nat) (environment : Option String) : Filter :=
  match verbosity with
  | 0 => (environment.bind ofText?).getD (ofLevel .warn)
  | 1 => ofLevel .debug
  | _ => ofLevel .trace

/-- The directive that decides about a record: the last of the most specific ones for it. -/
def deciding? (filter : Filter) (record : Record) : Option Directive :=
  (filter.directives.filter (·.isFor record)).foldl (fun best directive =>
    match best with
    | none => some directive
    | some other => if directive.atLeastAsSpecific other then some directive else some other) none

/-- Whether a record is shown. -/
def shows (filter : Filter) (record : Record) : Bool :=
  match filter.deciding? record with
  | none => false
  | some directive => record.level.detail ≤ directive.detail

end Filter

end AbiProbe.Log
