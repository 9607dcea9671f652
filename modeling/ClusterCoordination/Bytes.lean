/-!
# Bytes

Byte strings, little endian numbers and the bytes of text. Everything that crosses the network is a
`Bytes`.
-/

set_option autoImplicit false

namespace ClusterCoordination

abbrev Bytes := List UInt8

namespace Bytes

/-- The `count` least significant base-256 digits of `value`, least significant digit first. -/
def littleEndian : Nat → Nat → Bytes
  | 0, _ => []
  | count + 1, value => UInt8.ofNat value :: littleEndian count (value / 256)

def toNat : Bytes → Nat
  | [] => 0
  | digit :: rest => digit.toNat + 256 * toNat rest

@[simp] theorem length_littleEndian (count value : Nat) :
    (littleEndian count value).length = count := by
  induction count generalizing value with
  | zero => rfl
  | succ count ih => simp [littleEndian, ih]

theorem littleEndian_toNat (bytes : Bytes) :
    littleEndian bytes.length (toNat bytes) = bytes := by
  induction bytes with
  | nil => rfl
  | cons digit rest ih =>
    have small := digit.toNat_lt
    have low : UInt8.ofNat (toNat (digit :: rest)) = digit := by
      apply UInt8.toNat_inj.mp
      simp only [UInt8.toNat_ofNat', toNat]
      omega
    have high : toNat (digit :: rest) / 256 = toNat rest := by
      simp only [toNat]
      omega
    simp only [List.length_cons, littleEndian, low, high, ih]

def zeros (count : Nat) : Bytes := List.replicate count 0

@[simp] theorem length_zeros (count : Nat) : (zeros count).length = count := by
  simp [zeros]

def text? (bytes : Bytes) : Option String := String.fromUTF8? ⟨bytes.toArray⟩

end Bytes

def textBytes (text : String) : Bytes := text.toByteArray.data.toList

theorem text?_textBytes (text : String) : (textBytes text).text? = some text := by
  have valid := text.isValidUTF8
  simp [textBytes, Bytes.text?, String.fromUTF8?, valid, String.fromUTF8]

theorem textBytes_of_text? {bytes : Bytes} {text : String} (found : bytes.text? = some text) :
    textBytes text = bytes := by
  unfold Bytes.text? String.fromUTF8? at found
  split at found
  · simp only [Option.some.injEq] at found
    subst found
    simp [textBytes, String.fromUTF8]
  · simp at found

end ClusterCoordination
