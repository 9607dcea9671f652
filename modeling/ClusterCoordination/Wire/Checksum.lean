import ClusterCoordination.Bytes
/-!
# CRC-32

The reflected cyclic redundancy check with polynomial `0xEDB88320`, fed any number of bytes at a
time.
-/

set_option autoImplicit false

namespace ClusterCoordination

structure Checksum where
  register : UInt32
deriving DecidableEq

namespace Checksum

def start : Checksum := ⟨0xFFFFFFFF⟩

def shift (register : UInt32) : UInt32 :=
  if register &&& 1 = 0 then register >>> 1 else (register >>> 1) ^^^ 0xEDB88320

def feedByte (state : Checksum) (byte : UInt8) : Checksum :=
  ⟨Nat.repeat shift 8 (state.register ^^^ byte.toUInt32)⟩

def feed (state : Checksum) (bytes : Bytes) : Checksum := bytes.foldl feedByte state

def finish (state : Checksum) : UInt32 := state.register ^^^ 0xFFFFFFFF

@[simp] theorem feed_append (state : Checksum) (first second : Bytes) :
    state.feed (first ++ second) = (state.feed first).feed second := by
  simp [feed]

end Checksum

def checksum (bytes : Bytes) : UInt32 := (Checksum.start.feed bytes).finish

end ClusterCoordination
