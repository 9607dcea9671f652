import ClusterCoordination.Archive.Words
import ClusterCoordination.Wire.Datagram
/-!
# The datagram codec

Encoding and decoding are inverse to one another. A datagram has exactly one byte form, its layout,
and nothing else is read as that datagram.
-/

set_option autoImplicit false

namespace ClusterCoordination

namespace Datagram

theorem Header.read_write {header : Header} (rest : Bytes)
    (senderFits : header.senderLength < 65536) (payloadFits : header.payloadLength < 4294967296) :
    Header.read (header.write ++ rest) = .ok header := by
  have scope : Bytes.toNat (Bytes.littleEndian 2 header.scope.toUInt16.toNat) =
      header.scope.toUInt16.toNat :=
    Bytes.toNat_littleEndian_of_lt header.scope.toUInt16.toNat_lt
  have sender : Bytes.toNat (Bytes.littleEndian 2 header.senderLength) = header.senderLength :=
    Bytes.toNat_littleEndian_of_lt senderFits
  have payload : Bytes.toNat (Bytes.littleEndian 4 header.payloadLength) = header.payloadLength :=
    Bytes.toNat_littleEndian_of_lt payloadFits
  have sum : Bytes.toNat (Bytes.littleEndian 4 header.checksum.toNat) = header.checksum.toNat :=
    Bytes.toNat_littleEndian_of_lt header.checksum.toNat_lt
  have long : ¬ (header.write ++ rest).length < headerSize := by
    simp [Header.write, headerSize, lineEnd]
    omega
  rw [Header.read, if_neg long]
  simp [Header.write, lineEnd, List.drop_append, Bytes.drop_littleEndian, scope, sender, payload,
    sum]

theorem Header.read_eq_ok {bytes : Bytes} {header : Header}
    (found : Header.read bytes = .ok header) :
    14 ≤ bytes.length ∧ (bytes.drop 12).take 2 = lineEnd ∧ header = {
      scope := (UInt16.ofNat (Bytes.toNat (bytes.take 2))).toInt16
      senderLength := Bytes.toNat ((bytes.drop 2).take 2)
      payloadLength := Bytes.toNat ((bytes.drop 4).take 4)
      checksum := UInt32.ofNat (Bytes.toNat ((bytes.drop 8).take 4)) } := by
  unfold Header.read at found
  by_cases short : bytes.length < headerSize
  · simp [short] at found
  rw [if_neg short] at found
  by_cases open_ended : (bytes.drop 12).take 2 ≠ lineEnd
  · simp [open_ended] at found
  rw [if_neg open_ended] at found
  exact ⟨Nat.not_lt.mp short, Decidable.not_not.mp open_ended, (Except.ok.inj found).symm⟩

theorem Header.write_of_read {bytes : Bytes} {header : Header}
    (found : Header.read bytes = .ok header) :
    header.write ++ bytes.drop headerSize = bytes ∧ header.senderLength < 65536 ∧
      header.payloadLength < 4294967296 := by
  obtain ⟨long, ending, rfl⟩ := Header.read_eq_ok found
  have field (start count : Nat) (inside : start + count ≤ 14) :
      Bytes.littleEndian count (Bytes.toNat ((bytes.drop start).take count)) =
        (bytes.drop start).take count := by
    apply Bytes.littleEndian_take
    rw [List.length_drop]
    omega
  have scopeValue : (UInt16.ofNat (Bytes.toNat (bytes.take 2))).toInt16.toUInt16.toNat =
      Bytes.toNat (bytes.take 2) := by
    have small := Bytes.toNat_take_lt bytes 2
    simp only [UInt16.toUInt16_toInt16, UInt16.toNat_ofNat']
    omega
  have sumValue : (UInt32.ofNat (Bytes.toNat ((bytes.drop 8).take 4))).toNat =
      Bytes.toNat ((bytes.drop 8).take 4) := by
    have small := Bytes.toNat_take_lt (bytes.drop 8) 4
    simp only [UInt32.toNat_ofNat']
    omega
  refine ⟨?_, Bytes.toNat_take_lt _ 2, Bytes.toNat_take_lt _ 4⟩
  have front := field 0 2 (by omega)
  rw [List.drop_zero] at front
  simp only [Header.write, scopeValue, sumValue, front, field 2 2 (by omega),
    field 4 4 (by omega), field 8 4 (by omega), ← ending, headerSize, List.append_assoc]
  -- The fields are put together again from the back, each with what follows it.
  rw [Bytes.piece_append, Bytes.piece_append, Bytes.piece_append, Bytes.piece_append,
    List.take_append_drop]

/-- Sender and payload are no longer than their fields in the header can tell. -/
def Writable (datagram : Datagram) : Prop :=
  (textBytes datagram.sender).length ≤ 65535 ∧ datagram.payload.length ≤ 4294967295

def layout (datagram : Datagram) : Bytes :=
  let body := textBytes datagram.sender ++ datagram.payload
  Bytes.littleEndian 2 datagram.scope.toUInt16.toNat ++
    Bytes.littleEndian 2 (textBytes datagram.sender).length ++
    Bytes.littleEndian 4 datagram.payload.length ++
    Bytes.littleEndian 4 (checksum body).toNat ++ [13, 10] ++ body

theorem encode_of_writable {datagram : Datagram} (writable : datagram.Writable) :
    datagram.encode = .ok datagram.layout := by
  have sender : ¬ senderLimit < (textBytes datagram.sender).length := Nat.not_lt.mpr writable.1
  have payload : ¬ payloadLimit < datagram.payload.length := Nat.not_lt.mpr writable.2
  simp [encode, sender, payload, layout, Header.write, lineEnd, checksum]

theorem encode_of_not_writable {datagram : Datagram} (long : ¬ datagram.Writable) :
    datagram.encode = .error
      (if 65535 < (textBytes datagram.sender).length then .senderTooLong else .payloadTooLong) := by
  unfold encode senderLimit payloadLimit
  by_cases sender : 65535 < (textBytes datagram.sender).length
  · simp [sender]
  · have payload : 4294967295 < datagram.payload.length := by
      unfold Writable at long
      omega
    simp [sender, payload]

theorem encode_eq_ok_iff {datagram : Datagram} {bytes : Bytes} :
    datagram.encode = .ok bytes ↔ datagram.Writable ∧ bytes = datagram.layout := by
  by_cases writable : datagram.Writable
  · simp [encode_of_writable writable, writable, eq_comm]
  · simp [encode_of_not_writable writable, writable]

theorem decode_layout {datagram : Datagram} (writable : datagram.Writable) :
    decode datagram.layout = .ok datagram := by
  let header : Header := {
    scope := datagram.scope
    senderLength := (textBytes datagram.sender).length
    payloadLength := datagram.payload.length
    checksum := checksum (textBytes datagram.sender ++ datagram.payload) }
  have parts : datagram.layout = header.write ++ (textBytes datagram.sender ++ datagram.payload) :=
    rfl
  have found : Header.read (header.write ++ (textBytes datagram.sender ++ datagram.payload)) =
      .ok header :=
    Header.read_write _ (Nat.lt_succ_of_le writable.1) (Nat.lt_succ_of_le writable.2)
  have body : datagram.layout.drop headerSize = textBytes datagram.sender ++ datagram.payload := by
    rw [parts, List.drop_left' (by rfl)]
  rw [decode, parts, found, ← parts]
  simp [body, header, text?_textBytes]

theorem decode_eq_ok {bytes : Bytes} {datagram : Datagram} (decoded : decode bytes = .ok datagram) :
    ∃ header sender, Header.read bytes = .ok header ∧
      (bytes.drop headerSize).length = header.senderLength + header.payloadLength ∧
      checksum (bytes.drop headerSize) = header.checksum ∧
      Bytes.text? ((bytes.drop headerSize).take header.senderLength) = some sender ∧
      datagram = ⟨header.scope, sender, (bytes.drop headerSize).drop header.senderLength⟩ := by
  cases found : Header.read bytes with
  | error fault => simp [decode, found] at decoded
  | ok header =>
    simp only [decode, found] at decoded
    by_cases short : (bytes.drop headerSize).length < header.senderLength + header.payloadLength
    · simp only [if_pos short, reduceCtorEq] at decoded
    rw [if_neg short] at decoded
    by_cases long : header.senderLength + header.payloadLength < (bytes.drop headerSize).length
    · simp only [if_pos long, reduceCtorEq] at decoded
    rw [if_neg long] at decoded
    by_cases damaged : checksum (bytes.drop headerSize) ≠ header.checksum
    · simp only [if_pos damaged, reduceCtorEq] at decoded
    rw [if_neg damaged] at decoded
    have intact := Decidable.not_not.mp damaged
    cases text : Bytes.text? ((bytes.drop headerSize).take header.senderLength) with
    | none => simp [text] at decoded
    | some sender =>
      simp only [text, Except.ok.injEq] at decoded
      exact ⟨header, sender, rfl, by omega, intact, text, decoded.symm⟩

theorem layout_of_decode {bytes : Bytes} {datagram : Datagram}
    (decoded : decode bytes = .ok datagram) :
    datagram.Writable ∧ bytes = datagram.layout := by
  obtain ⟨header, sender, found, length, sum, text, rfl⟩ := decode_eq_ok decoded
  obtain ⟨front, senderFits, payloadFits⟩ := Header.write_of_read found
  have written := textBytes_of_text? text
  have senderLength : (textBytes sender).length = header.senderLength := by
    rw [written, List.length_take]
    omega
  have payloadLength :
      ((bytes.drop headerSize).drop header.senderLength).length = header.payloadLength := by
    rw [List.length_drop]
    omega
  have body : textBytes sender ++ (bytes.drop headerSize).drop header.senderLength =
      bytes.drop headerSize := by
    rw [written, List.take_append_drop]
  constructor
  · exact ⟨by simp only [senderLength]; omega, by simp only [payloadLength]; omega⟩
  · simp only [layout, body, senderLength, payloadLength, sum]
    exact front.symm

/--
Decoding undoes encoding and encoding undoes decoding, so a datagram has one byte form and a byte
string at most one datagram. Encoding fails exactly beyond the limits.
-/
theorem decode_eq_ok_iff_encode_eq_ok (datagram : Datagram) (bytes : Bytes) :
    (decode bytes = .ok datagram ↔ datagram.encode = .ok bytes) ∧
      (datagram.encode = .ok bytes ↔ datagram.Writable ∧ bytes = datagram.layout) ∧
      ((∃ fault, datagram.encode = .error fault) ↔
        65535 < (textBytes datagram.sender).length ∨ 4294967295 < datagram.payload.length) := by
  refine ⟨?_, encode_eq_ok_iff, ?_⟩
  · rw [encode_eq_ok_iff]
    constructor
    · exact layout_of_decode
    · rintro ⟨writable, rfl⟩
      exact decode_layout writable
  · by_cases writable : datagram.Writable
    · have inside := writable
      unfold Writable at inside
      simp only [encode_of_writable writable, reduceCtorEq, exists_false, false_iff]
      omega
    · have outside := writable
      unfold Writable at outside
      simp only [encode_of_not_writable writable, Except.error.injEq, exists_eq', true_iff]
      omega

example : (encode ⟨1000, "", [0x31, 0x32, 0x33, 0x34, 0x35, 0x36, 0x37, 0x38, 0x39]⟩).toOption =
    some [0xE8, 0x03, 0, 0, 9, 0, 0, 0, 0x26, 0x39, 0xF4, 0xCB, 13, 10,
      0x31, 0x32, 0x33, 0x34, 0x35, 0x36, 0x37, 0x38, 0x39] := by
  decide +kernel

end Datagram

end ClusterCoordination
