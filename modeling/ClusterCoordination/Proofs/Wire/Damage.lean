import ClusterCoordination.Proofs.Wire.Bursts
import ClusterCoordination.Proofs.Wire.DatagramCodec
/-!
# Damaged datagrams

What becomes of an encoded datagram that is cut off, has bytes added to it or has some of its bytes
changed. The checksum does not cover the header, so each of its fields has an argument of its own: a
changed length no longer fits what follows, a changed checksum no longer fits the body, and a
changed line end is noticed at once. Only a changed scope is not.
-/

set_option autoImplicit false

namespace ClusterCoordination

namespace Bytes

/-- Two byte strings of one length whose bytes are the same but for some places in a row. -/
structure AgreeBut (start count : Nat) (first second : Bytes) : Prop where
  length : first.length = second.length
  elsewhere : ∀ place, place < start ∨ start + count ≤ place → first[place]? = second[place]?

section

variable {start count : Nat} {first second : Bytes}

theorem AgreeBut.mono (agree : AgreeBut start count first second) {begins size : Nat}
    (front : begins ≤ start) (back : start + count ≤ begins + size) :
    AgreeBut begins size first second where
  length := agree.length
  elsewhere := fun place outside => agree.elsewhere place (by omega)

theorem AgreeBut.field (agree : AgreeBut start count first second) (begins size : Nat)
    (apart : begins + size ≤ start ∨ start + count ≤ begins) :
    (first.drop begins).take size = (second.drop begins).take size := by
  apply List.ext_getElem?
  intro place
  simp only [List.getElem?_take, List.getElem?_drop]
  split
  · exact agree.elsewhere _ (by omega)
  · rfl

theorem AgreeBut.rest (agree : AgreeBut start count first second) {begins : Nat}
    (after : start + count ≤ begins) : first.drop begins = second.drop begins := by
  apply List.ext_getElem?
  intro place
  simp only [List.getElem?_drop]
  exact agree.elsewhere _ (by omega)

theorem agreeBut_iff : AgreeBut start count first second ↔ first.length = second.length ∧
    first.take start = second.take start ∧
      first.drop (start + count) = second.drop (start + count) := by
  constructor
  · intro agree
    have front := agree.field 0 start (by omega)
    exact ⟨agree.length, front, agree.rest (Nat.le_refl _)⟩
  · rintro ⟨length, front, back⟩
    refine ⟨length, fun place outside => ?_⟩
    rcases outside with before | after
    · rw [← List.getElem?_take_of_lt before, front, List.getElem?_take_of_lt before]
    · obtain ⟨offset, rfl⟩ := Nat.exists_eq_add_of_le after
      rw [← List.getElem?_drop, back, List.getElem?_drop]

instance : Decidable (AgreeBut start count first second) := decidable_of_iff' _ agreeBut_iff

theorem split_field (bytes : Bytes) (start count : Nat) :
    bytes.take start ++ (bytes.drop start).take count ++ bytes.drop (start + count) = bytes := by
  rw [List.append_assoc, ← List.drop_drop, List.take_append_drop, List.take_append_drop]

theorem AgreeBut.split (agree : AgreeBut start count first second) :
    first.take start ++ (second.drop start).take count ++ first.drop (start + count) = second := by
  obtain ⟨-, front, back⟩ := agreeBut_iff.mp agree
  rw [front, back, split_field]

theorem AgreeBut.field_ne (agree : AgreeBut start count first second) (changed : first ≠ second) :
    (first.drop start).take count ≠ (second.drop start).take count := by
  intro same
  apply changed
  rw [← agree.split, ← same, split_field]

theorem AgreeBut.drop {skipped : Nat} (agree : AgreeBut (skipped + start) count first second) :
    AgreeBut start count (first.drop skipped) (second.drop skipped) where
  length := by rw [List.length_drop, List.length_drop, agree.length]
  elsewhere := by
    intro place outside
    rw [List.getElem?_drop, List.getElem?_drop]
    exact agree.elsewhere _ (by omega)

theorem toNat_injective (length : first.length = second.length)
    (same : toNat first = toNat second) :
    first = second := by
  rw [← littleEndian_toNat first, ← littleEndian_toNat second, same, length]

theorem AgreeBut.number_ne (agree : AgreeBut start count first second) (changed : first ≠ second) :
    toNat ((first.drop start).take count) ≠ toNat ((second.drop start).take count) := by
  intro same
  apply agree.field_ne changed
  apply toNat_injective _ same
  simp only [List.length_take, List.length_drop, agree.length]

theorem AgreeBut.checksum_ne (agree : AgreeBut start count first second) (few : count ≤ 4)
    (changed : first ≠ second) : checksum first ≠ checksum second := by
  intro same
  apply agree.field_ne changed
  rw [← split_field first start count, ← agree.split] at same
  apply checksum_window_injective _ _ same
  · simp only [List.length_take, List.length_drop, agree.length]
  · rw [List.length_take]
    omega

end

end Bytes

namespace Datagram

section

variable {bytes : Bytes} {header : Header}

theorem decode_of_short (found : Header.read bytes = .ok header)
    (short : (bytes.drop headerSize).length < header.senderLength + header.payloadLength) :
    decode bytes = .error .truncated := by
  simp only [decode, found, if_pos short]

theorem decode_of_long (found : Header.read bytes = .ok header)
    (long : header.senderLength + header.payloadLength < (bytes.drop headerSize).length) :
    decode bytes = .error (.trailingBytes
      ((bytes.drop headerSize).length - (header.senderLength + header.payloadLength))) := by
  simp only [decode, found, if_neg (Nat.not_lt.mpr (Nat.le_of_lt long)), if_pos long]

theorem decode_of_other_length (found : Header.read bytes = .ok header)
    (other : header.senderLength + header.payloadLength ≠ (bytes.drop headerSize).length) :
    ∃ fault, decode bytes = .error fault := by
  rcases Nat.lt_or_gt_of_ne other with long | short
  · exact ⟨_, decode_of_long found long⟩
  · exact ⟨_, decode_of_short found short⟩

theorem decode_of_other_checksum (found : Header.read bytes = .ok header)
    (length : header.senderLength + header.payloadLength = (bytes.drop headerSize).length)
    (other : checksum (bytes.drop headerSize) ≠ header.checksum) :
    decode bytes = .error .checksumMismatch := by
  simp only [decode, found, length, Nat.lt_irrefl, if_false, if_pos other]

theorem Header.read_of_lineEnd (long : headerSize ≤ bytes.length)
    (ended : (bytes.drop 12).take 2 = lineEnd) :
    Header.read bytes = .ok {
      scope := (UInt16.ofNat (Bytes.toNat (bytes.take 2))).toInt16
      senderLength := Bytes.toNat ((bytes.drop 2).take 2)
      payloadLength := Bytes.toNat ((bytes.drop 4).take 4)
      checksum := UInt32.ofNat (Bytes.toNat ((bytes.drop 8).take 4)) } := by
  rw [Header.read, if_neg (Nat.not_lt.mpr long), if_neg (not_not_intro ended)]

end

section

variable {datagram : Datagram}

def body (datagram : Datagram) : Bytes := textBytes datagram.sender ++ datagram.payload

def header (datagram : Datagram) : Header where
  scope := datagram.scope
  senderLength := (textBytes datagram.sender).length
  payloadLength := datagram.payload.length
  checksum := checksum datagram.body

theorem layout_eq (datagram : Datagram) :
    datagram.layout = datagram.header.write ++ datagram.body :=
  rfl

theorem length_body (datagram : Datagram) :
    datagram.body.length = datagram.header.senderLength + datagram.header.payloadLength :=
  List.length_append

theorem drop_write (header : Header) (rest : Bytes) :
    (header.write ++ rest).drop headerSize = rest :=
  List.drop_left' rfl

theorem length_layout (datagram : Datagram) :
    datagram.layout.length = headerSize + datagram.body.length := by
  rw [layout_eq, List.length_append]
  rfl

theorem Writable.read_header (writable : datagram.Writable) (rest : Bytes) :
    Header.read (datagram.header.write ++ rest) = .ok datagram.header :=
  Header.read_write rest (Nat.lt_succ_of_le writable.1) (Nat.lt_succ_of_le writable.2)

theorem length_write (header : Header) : header.write.length = headerSize := rfl

theorem Writable.decode_prefix (writable : datagram.Writable) {cut : Bytes}
    (front : cut <+: datagram.layout) (proper : cut ≠ datagram.layout) :
    decode cut = .error .truncated := by
  have fewer : cut.length < headerSize + datagram.body.length := by
    rw [← length_layout]
    exact Nat.lt_of_le_of_ne front.length_le (mt front.eq_of_length proper)
  by_cases short : cut.length < headerSize
  · simp only [decode, Header.read, if_pos short]
  · have long : headerSize ≤ cut.length := Nat.not_lt.mp short
    have begins : cut = datagram.header.write ++ datagram.body.take (cut.length - headerSize) := by
      have taken := List.prefix_iff_eq_take.mp front
      rwa [layout_eq, List.take_append, List.take_of_length_le (length_write _ ▸ long),
        length_write] at taken
    have found : Header.read cut = .ok datagram.header := begins ▸ writable.read_header _
    apply decode_of_short found
    rw [← length_body, List.length_drop]
    omega

theorem Writable.decode_append (writable : datagram.Writable) {more : Bytes} (some : more ≠ []) :
    decode (datagram.layout ++ more) = .error (.trailingBytes more.length) := by
  have found : Header.read (datagram.layout ++ more) = .ok datagram.header := by
    rw [layout_eq, List.append_assoc]
    exact writable.read_header _
  have follows : (datagram.layout ++ more).drop headerSize = datagram.body ++ more := by
    rw [layout_eq, List.append_assoc, drop_write]
  have positive : 0 < more.length := List.length_pos_iff.mpr some
  have long := decode_of_long found (by rw [follows, List.length_append, ← length_body]; omega)
  rwa [follows, List.length_append, ← length_body, Nat.add_sub_cancel_left] at long

theorem Writable.header_eq (writable : datagram.Writable) : datagram.header = {
    scope := (UInt16.ofNat (Bytes.toNat (datagram.layout.take 2))).toInt16
    senderLength := Bytes.toNat ((datagram.layout.drop 2).take 2)
    payloadLength := Bytes.toNat ((datagram.layout.drop 4).take 4)
    checksum := UInt32.ofNat (Bytes.toNat ((datagram.layout.drop 8).take 4)) } :=
  (Header.read_eq_ok (writable.read_header datagram.body)).2.2

theorem lineEnd_layout (datagram : Datagram) : (datagram.layout.drop 12).take 2 = lineEnd := rfl

variable {start count : Nat} {damaged : Bytes}

/-- What is read of a header whose line end is intact. -/
theorem read_damaged (agree : Bytes.AgreeBut start count datagram.layout damaged)
    (apart : 14 ≤ start ∨ start + count ≤ 12) :
    Header.read damaged = .ok {
      scope := (UInt16.ofNat (Bytes.toNat (damaged.take 2))).toInt16
      senderLength := Bytes.toNat ((damaged.drop 2).take 2)
      payloadLength := Bytes.toNat ((damaged.drop 4).take 4)
      checksum := UInt32.ofNat (Bytes.toNat ((damaged.drop 8).take 4)) } := by
  apply Header.read_of_lineEnd
  · rw [← agree.length, length_layout]
    exact Nat.le_add_right _ _
  · rw [← agree.field 12 2 (by omega), lineEnd_layout]

theorem length_damaged (agree : Bytes.AgreeBut start count datagram.layout damaged) :
    (damaged.drop headerSize).length = datagram.body.length := by
  rw [List.length_drop, ← agree.length, length_layout, Nat.add_sub_cancel_left]

theorem body_damaged (agree : Bytes.AgreeBut start count datagram.layout damaged)
    (before : start + count ≤ headerSize) : damaged.drop headerSize = datagram.body := by
  rw [← agree.rest before, layout_eq, drop_write]

theorem decode_other_lineEnd (agree : Bytes.AgreeBut 12 2 datagram.layout damaged)
    (changed : datagram.layout ≠ damaged) : decode damaged = .error .malformedHeader := by
  have long : ¬ damaged.length < headerSize := by
    rw [← agree.length, length_layout]
    omega
  have ended : (damaged.drop 12).take 2 ≠ lineEnd :=
    fun same => agree.field_ne changed ((lineEnd_layout datagram).trans same.symm)
  simp only [decode, Header.read, if_neg long, if_pos ended]

theorem Writable.decode_other_senderLength (writable : datagram.Writable)
    (agree : Bytes.AgreeBut 2 2 datagram.layout damaged) (changed : datagram.layout ≠ damaged) :
    ∃ fault, decode damaged = .error fault := by
  apply decode_of_other_length (read_damaged agree (by omega))
  have other := agree.number_ne changed
  rw [← agree.field 4 4 (by omega), length_damaged agree, length_body, writable.header_eq]
  dsimp only
  omega

theorem Writable.decode_other_payloadLength (writable : datagram.Writable)
    (agree : Bytes.AgreeBut 4 4 datagram.layout damaged) (changed : datagram.layout ≠ damaged) :
    ∃ fault, decode damaged = .error fault := by
  apply decode_of_other_length (read_damaged agree (by omega))
  have other := agree.number_ne changed
  rw [← agree.field 2 2 (by omega), length_damaged agree, length_body, writable.header_eq]
  dsimp only
  omega

theorem Writable.decode_other_checksum (writable : datagram.Writable)
    (agree : Bytes.AgreeBut 8 4 datagram.layout damaged) (changed : datagram.layout ≠ damaged) :
    decode damaged = .error .checksumMismatch := by
  apply decode_of_other_checksum (read_damaged agree (by omega))
  · rw [← agree.field 2 2 (by omega), ← agree.field 4 4 (by omega),
      length_damaged agree, length_body, writable.header_eq]
  · rw [body_damaged agree (by decide)]
    change datagram.header.checksum ≠ _
    rw [writable.header_eq]
    intro same
    apply agree.number_ne changed
    have numbers := congrArg UInt32.toNat same
    have small := Bytes.toNat_take_lt (datagram.layout.drop 8) 4
    have alsoSmall := Bytes.toNat_take_lt (damaged.drop 8) 4
    rwa [UInt32.toNat_ofNat', UInt32.toNat_ofNat', Nat.mod_eq_of_lt (by omega),
      Nat.mod_eq_of_lt (by omega)] at numbers

theorem Writable.decode_other_body (writable : datagram.Writable) (behind : headerSize ≤ start)
    (few : count ≤ 4) (agree : Bytes.AgreeBut start count datagram.layout damaged)
    (changed : datagram.layout ≠ damaged) : decode damaged = .error .checksumMismatch := by
  unfold headerSize at behind
  have found : Header.read damaged = .ok datagram.header := by
    rw [read_damaged agree (.inl behind), writable.header_eq]
    have scope := agree.field 0 2 (by omega)
    rw [List.drop_zero, List.drop_zero] at scope
    rw [← scope, ← agree.field 2 2 (by omega), ← agree.field 4 4 (by omega),
      ← agree.field 8 4 (by omega)]
  apply decode_of_other_checksum found
  · rw [← length_body, length_damaged agree]
  · obtain ⟨offset, rfl⟩ := Nat.exists_eq_add_of_le behind
    have within : Bytes.AgreeBut offset count datagram.body (damaged.drop headerSize) := agree.drop
    have other : datagram.body ≠ damaged.drop headerSize := by
      intro same
      apply changed
      have front := agree.field 0 headerSize (.inl (Nat.le_add_right _ _))
      rw [List.drop_zero, List.drop_zero] at front
      rw [← List.take_append_drop headerSize damaged, ← same, ← front]
      rfl
    exact (within.checksum_ne few other).symm

theorem decode_of_scope {scope : Int16}
    (found : Header.read damaged = .ok { datagram.header with scope := scope })
    (follows : damaged.drop headerSize = datagram.body) :
    decode damaged = .ok { datagram with scope := scope } := by
  simp [decode, found, follows, header, body, text?_textBytes]

theorem Writable.decode_other_scope (writable : datagram.Writable)
    (agree : Bytes.AgreeBut 0 2 datagram.layout damaged) (changed : datagram.layout ≠ damaged) :
    ∃ scope, scope ≠ datagram.scope ∧ decode damaged = .ok { datagram with scope := scope } := by
  refine ⟨(UInt16.ofNat (Bytes.toNat (damaged.take 2))).toInt16, ?_, ?_⟩
  · change _ ≠ datagram.header.scope
    rw [writable.header_eq]
    intro same
    apply agree.number_ne changed
    have words := congrArg (fun scope => scope.toUInt16.toNat) same
    have small := Bytes.toNat_take_lt datagram.layout 2
    have alsoSmall := Bytes.toNat_take_lt damaged 2
    simp only [UInt16.toUInt16_toInt16, UInt16.toNat_ofNat'] at words
    rw [List.drop_zero, List.drop_zero]
    omega
  · apply decode_of_scope _ (body_damaged agree (by decide))
    rw [read_damaged agree (by omega), ← agree.field 2 2 (by omega),
      ← agree.field 4 4 (by omega), ← agree.field 8 4 (by omega),
      writable.header_eq]

theorem Writable.decode_other_byte (writable : datagram.Writable) {place : Nat} (behind : 2 ≤ place)
    (agree : Bytes.AgreeBut place 1 datagram.layout damaged) (changed : datagram.layout ≠ damaged) :
    ∃ fault, decode damaged = .error fault := by
  by_cases sender : place < 4
  · exact writable.decode_other_senderLength (agree.mono behind (by omega)) changed
  by_cases payload : place < 8
  · exact writable.decode_other_payloadLength (agree.mono (by omega) (by omega)) changed
  by_cases sum : place < 12
  · exact ⟨_, writable.decode_other_checksum (agree.mono (by omega) (by omega)) changed⟩
  by_cases ending : place < 14
  · exact ⟨_, decode_other_lineEnd (agree.mono (by omega) (by omega)) changed⟩
  · exact ⟨_, writable.decode_other_body (Nat.not_lt.mp ending) (by decide) agree changed⟩

end

/--
Damage is detected. A datagram that is cut off is reported as truncated, and one that goes on as
having so many trailing bytes. With one byte behind the scope changed it is rejected, and with up to
four consecutive bytes of the body changed the checksum does not match. With other bytes for the
scope it is read as the same datagram on another scope.
-/
theorem damage_is_detected {datagram : Datagram} {bytes : Bytes}
    (encoded : datagram.encode = .ok bytes) :
    (∀ cut, cut <+: bytes → cut ≠ bytes → decode cut = .error .truncated) ∧
      (∀ more, more ≠ [] → decode (bytes ++ more) = .error (.trailingBytes more.length)) ∧
      (∀ place damaged, 2 ≤ place → Bytes.AgreeBut place 1 bytes damaged → bytes ≠ damaged →
        ∃ fault, decode damaged = .error fault) ∧
      (∀ start count damaged, headerSize ≤ start → count ≤ 4 →
        Bytes.AgreeBut start count bytes damaged → bytes ≠ damaged →
          decode damaged = .error .checksumMismatch) ∧
      (∀ damaged, Bytes.AgreeBut 0 2 bytes damaged → bytes ≠ damaged →
        ∃ scope, scope ≠ datagram.scope ∧
          decode damaged = .ok { datagram with scope := scope }) := by
  obtain ⟨writable, rfl⟩ := encode_eq_ok_iff.mp encoded
  refine ⟨?_, ?_, ?_, ?_, ?_⟩
  · intro cut front proper
    exact writable.decode_prefix front proper
  · intro more some
    exact writable.decode_append some
  · intro place damaged behind agree changed
    exact writable.decode_other_byte behind agree changed
  · intro start count damaged behind few agree changed
    exact writable.decode_other_body behind few agree changed
  · intro damaged agree changed
    exact writable.decode_other_scope agree changed

/-- The last byte of a sender and the first two of a payload change places. -/
theorem burst_across_sender_is_noticed :
    encode ⟨7, "ab", [1, 2, 3, 4]⟩ =
        .ok [7, 0, 2, 0, 4, 0, 0, 0, 0xA0, 0x7D, 0xE0, 0x06, 13, 10, 0x61, 0x62, 1, 2, 3, 4] ∧
      decode [7, 0, 2, 0, 4, 0, 0, 0, 0xA0, 0x7D, 0xE0, 0x06, 13, 10, 0x61, 2, 0x62, 1, 3, 4] =
        .error .checksumMismatch := by
  have encoded : encode ⟨7, "ab", [1, 2, 3, 4]⟩ =
      .ok [7, 0, 2, 0, 4, 0, 0, 0, 0xA0, 0x7D, 0xE0, 0x06, 13, 10, 0x61, 0x62, 1, 2, 3, 4] := by
    decide +kernel
  exact ⟨encoded,
    (damage_is_detected encoded).2.2.2.1 15 3 _ (by decide) (by decide) (by decide) (by decide)⟩

end Datagram

end ClusterCoordination
