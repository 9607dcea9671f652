import ClusterCoordination.Wire.Checksum
/-!
# Datagrams

The unit exchanged over a network: a header of fourteen bytes (scope, length of the sender, length
of the payload and checksum, all little endian, then a line end), the sender's id and the payload.
The checksum covers sender and payload.
-/

set_option autoImplicit false

namespace ClusterCoordination

structure Datagram where
  scope : Int16
  sender : String
  payload : Bytes
deriving DecidableEq

namespace Datagram

inductive Fault where
  | truncated
  | malformedHeader
  | trailingBytes (count : Nat)
  | checksumMismatch
  | senderNotText
  | senderTooLong
  | payloadTooLong
deriving DecidableEq

def Fault.message : Fault → String
  | .truncated => "Datagram is shorter than its header declares."
  | .malformedHeader => "Datagram header is malformed."
  | .trailingBytes count => s!"Datagram has {count} trailing bytes after the payload."
  | .checksumMismatch => "Datagram checksum does not match its contents."
  | .senderNotText => "Sender id is not valid UTF-8."
  | .senderTooLong => "Sender id is longer than 65535 bytes."
  | .payloadTooLong => "Payload is longer than 4294967295 bytes."

def headerSize : Nat := 14

def lineEnd : Bytes := [13, 10]

def senderLimit : Nat := 65535

def payloadLimit : Nat := 4294967295

structure Header where
  scope : Int16
  senderLength : Nat
  payloadLength : Nat
  checksum : UInt32
deriving DecidableEq

def Header.write (header : Header) : Bytes :=
  Bytes.littleEndian 2 header.scope.toUInt16.toNat ++
    Bytes.littleEndian 2 header.senderLength ++
    Bytes.littleEndian 4 header.payloadLength ++
    Bytes.littleEndian 4 header.checksum.toNat ++ lineEnd

def Header.read (bytes : Bytes) : Except Fault Header :=
  if bytes.length < headerSize then .error .truncated
  else if (bytes.drop 12).take 2 ≠ lineEnd then .error .malformedHeader
  else .ok {
    scope := (UInt16.ofNat (Bytes.toNat (bytes.take 2))).toInt16
    senderLength := Bytes.toNat ((bytes.drop 2).take 2)
    payloadLength := Bytes.toNat ((bytes.drop 4).take 4)
    checksum := UInt32.ofNat (Bytes.toNat ((bytes.drop 8).take 4)) }

def encode (datagram : Datagram) : Except Fault Bytes :=
  let sender := textBytes datagram.sender
  if senderLimit < sender.length then .error .senderTooLong
  else if payloadLimit < datagram.payload.length then .error .payloadTooLong
  else
    let header : Header := {
      scope := datagram.scope
      senderLength := sender.length
      payloadLength := datagram.payload.length
      checksum := ((Checksum.start.feed sender).feed datagram.payload).finish }
    .ok (header.write ++ sender ++ datagram.payload)

def decode (bytes : Bytes) : Except Fault Datagram :=
  match Header.read bytes with
  | .error fault => .error fault
  | .ok header =>
    let body := bytes.drop headerSize
    let expected := header.senderLength + header.payloadLength
    if body.length < expected then .error .truncated
    else if expected < body.length then .error (.trailingBytes (body.length - expected))
    -- The checksum comes first: a damaged sender is reported as damage.
    else if ClusterCoordination.checksum body ≠ header.checksum then .error .checksumMismatch
    else
      match Bytes.text? (body.take header.senderLength) with
      | none => .error .senderNotText
      | some sender => .ok ⟨header.scope, sender, body.drop header.senderLength⟩

end Datagram

end ClusterCoordination
