import AbiProbe.Toolchain.SystemError

/-! # Where bytes are written to

A sink takes all bytes written to it, or stops short of them: then those before the shortfall are
written and the others are not.
-/

namespace AbiProbe

/-- Why a sink took no more bytes, and how many it had taken by then. -/
structure Shortfall where
  taken : Nat
  reason : SystemError
deriving DecidableEq, Repr

/-- Takes bytes, up to a shortfall if it comes to one. -/
structure Sink where
  shortfall? : List UInt8 → Option Shortfall

namespace Sink

/-- The sink that takes everything. -/
def endless : Sink := ⟨fun _ => none⟩

/-- The sink that takes nothing. -/
def refusing (reason : SystemError) : Sink := ⟨fun _ => some ⟨0, reason⟩⟩

/-- The bytes a sink takes. -/
def taken (sink : Sink) (bytes : List UInt8) : List UInt8 :=
  match sink.shortfall? bytes with
  | none => bytes
  | some shortfall => bytes.take shortfall.taken

/-- How writing bytes to a sink ends. -/
def verdict (sink : Sink) (bytes : List UInt8) : Except SystemError Unit :=
  match sink.shortfall? bytes with
  | none => .ok ()
  | some shortfall => .error shortfall.reason

/-- The bytes taken are a beginning of those that were written. -/
theorem taken_prefix (sink : Sink) (bytes : List UInt8) : sink.taken bytes <+: bytes := by
  unfold taken
  cases sink.shortfall? bytes with
  | none => exact List.prefix_refl bytes
  | some shortfall => exact List.take_prefix shortfall.taken bytes

/-- All bytes are taken where writing them succeeds. -/
theorem taken_of_verdict {sink : Sink} {bytes : List UInt8} (written : sink.verdict bytes = .ok ()) :
    sink.taken bytes = bytes := by
  unfold verdict at written
  unfold taken
  cases ended : sink.shortfall? bytes with
  | none => rfl
  | some shortfall =>
      rw [ended] at written
      cases written

end Sink

end AbiProbe
