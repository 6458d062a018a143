import EditGuard.Fault
import EditGuard.Text.Utf8

/-! # Streams that may fail -/

namespace EditGuard.Hook

open Text

/-- An input: the bytes that it hands out, and the fault that it ends in, if any. -/
structure Input where
  bytes : Bytes
  fault : Option Fault := none
  deriving Repr

structure Refusal where
  taken : Nat
  fault : Fault
  deriving DecidableEq, Repr

/-- What an output still takes: so many bytes, or the writes ahead one by one, each of them whole
unless it is refused. Behind these it takes all. -/
inductive Room where
  | bytes (n : Nat)
  | writes (ahead : List (Option Refusal))
  deriving DecidableEq, Repr

instance (n : Nat) : OfNat Room n := ⟨.bytes n⟩

/-- An output: the bytes written so far, and what it still takes; without a limit it takes all. -/
structure Output where
  written : Bytes := []
  room : Option Room := none
  deriving DecidableEq, Repr

namespace Output

def write (o : Output) (bytes : Bytes) : Output × Option Fault :=
  match o.room with
  | none => (⟨o.written ++ bytes, none⟩, none)
  | some (.bytes n) =>
    if bytes.length ≤ n then (⟨o.written ++ bytes, some (.bytes (n - bytes.length))⟩, none)
    else (⟨o.written ++ bytes.take n, some (.bytes 0)⟩, some .noSpace)
  | some (.writes []) => (⟨o.written ++ bytes, some (.writes [])⟩, none)
  | some (.writes (none :: ahead)) => (⟨o.written ++ bytes, some (.writes ahead)⟩, none)
  | some (.writes (some r :: ahead)) =>
    (⟨o.written ++ bytes.take r.taken, some (.writes ahead)⟩, some r.fault)

def writeLine (o : Output) (line : String) : Output × Option Fault :=
  o.write (toUtf8 (line ++ "\n"))

/-- Hands on what was written. Nothing is added, but this may be refused as a write is. -/
def flush (o : Output) : Output × Option Fault := o.write []

end Output

end EditGuard.Hook
