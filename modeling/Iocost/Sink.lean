import Iocost.Text.Utf8

/-!
Where output goes: a sink takes bytes as long as it has room and lets itself be flushed so many
times. What does not fit is cut, and the sink is full.
-/

namespace Iocost

/-- Why a sink refuses. -/
inductive SinkError where
  | full
  | stopped
deriving DecidableEq

/-- What a sink says when it refuses. -/
def SinkError.message : SinkError → String
  | .full => "full"
  | .stopped => "stop"

/-- A sink for bytes. -/
structure Sink where
  /-- What it has taken. -/
  written : List UInt8 := []
  /-- How many more bytes it takes, if there is a limit. -/
  room : Option Nat := none
  /-- How many more times it can be flushed, if there is a limit. -/
  flushes : Option Nat := none
deriving DecidableEq

namespace Sink

/-- Writes bytes, or as many of them as there is room for. -/
def write (s : Sink) (bytes : List UInt8) : Sink × Option SinkError :=
  match s.room with
  | none => ({ s with written := s.written ++ bytes }, none)
  | some room =>
    if bytes.length ≤ room then
      ({ s with written := s.written ++ bytes, room := some (room - bytes.length) }, none)
    else
      ({ s with written := s.written ++ bytes.take room, room := some 0 }, some .full)

/-- Writes pieces of text one after the other, up to one that does not fit. -/
def writePieces (s : Sink) : List String → Sink × Option SinkError
  | [] => (s, none)
  | piece :: pieces =>
    match s.write (Text.encode piece) with
    | (s, none) => s.writePieces pieces
    | refused => refused

def flush (s : Sink) : Sink × Option SinkError :=
  match s.flushes with
  | none => (s, none)
  | some 0 => (s, some .stopped)
  | some (n + 1) => ({ s with flushes := some n }, none)

/-- A number of rounds that the sink does not last through, if each of them writes something and
flushes. -/
def roundLimit? (s : Sink) : Option Nat :=
  match s.flushes with
  | some n => some (n + 1)
  | none => s.room.map (· + 1)

end Sink

end Iocost
