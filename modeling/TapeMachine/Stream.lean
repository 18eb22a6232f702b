/-!
Where a machine reads its bytes from and where it writes them to. Both count how often they were
used, and both can fail with a text.
-/

namespace TapeMachine

/-- What a read gives. -/
inductive Reading where
  | byte (value : UInt8)
  | ended
  | failed (reason : String)
  deriving DecidableEq, Inhabited

/-- A stream of input: the bytes still to come, and the failure that follows them instead of a
plain end, if there is one. Behind the bytes every read ends, or every read fails for the same
reason; a source that gives bytes again after a read that ended or failed is left out.
-/
structure Input where
  pending : List UInt8 := []
  failure : Option String := none
  reads : Nat := 0
  deriving DecidableEq, Inhabited

namespace Input

/-- Reads once. -/
def read (input : Input) : Reading × Input :=
  match input.pending with
  | byte :: rest => (.byte byte, { input with pending := rest, reads := input.reads + 1 })
  | [] =>
    let reading := match input.failure with
      | none => .ended
      | some reason => .failed reason
    (reading, { input with reads := input.reads + 1 })

/-- Adds bytes behind those still to come. -/
def feed (input : Input) (bytes : List UInt8) : Input :=
  { input with pending := input.pending ++ bytes }

end Input

/-- A sink for output: the bytes that arrived, the number of writes and flushes that were tried,
and which of those attempts fail with what reason.
-/
structure Sink where
  bytes : Array UInt8 := #[]
  writes : Nat := 0
  flushes : Nat := 0
  writeFailure : Nat → Option String := fun _ => none
  flushFailure : Nat → Option String := fun _ => none
  deriving Inhabited

namespace Sink

/-- Writes one byte, which arrives unless the attempt fails. -/
def write (sink : Sink) (byte : UInt8) : Option String × Sink :=
  match sink.writeFailure sink.writes with
  | some reason => (some reason, { sink with writes := sink.writes + 1 })
  | none => (none, { sink with bytes := sink.bytes.push byte, writes := sink.writes + 1 })

/-- Flushes what was written. -/
def flush (sink : Sink) : Option String × Sink :=
  (sink.flushFailure sink.flushes, { sink with flushes := sink.flushes + 1 })

/-- Writes one byte and flushes it; nothing is flushed after a failed write. -/
def emit (sink : Sink) (byte : UInt8) : Option String × Sink :=
  match sink.write byte with
  | (some reason, sink) => (some reason, sink)
  | (none, sink) => sink.flush

end Sink

end TapeMachine
