import ClusterCoordination.Payload
import ClusterCoordination.Proofs.Archive.RoundTrip
/-!
# Payloads are read back

Every payload type has a schema whose archives can be read back, so decoding undoes encoding.
-/

set_option autoImplicit false

namespace ClusterCoordination

namespace PayloadType

/--
The value is not refused, and its archive is short enough for distances within it to be written.
-/
def Fits (type : PayloadType) (value : type.Carrier) : Prop :=
  type.refuses value = false ∧
    (type.form.schema.write (type.form.toValue value)).length < archiveLimit

theorem isArchivable_form (type : PayloadType) : type.form.schema.isArchivable = true := by
  cases type with
  | declared name schema archivable refuses => exact archivable
  | _ => decide

theorem encode_of_fits {type : PayloadType} {value : type.Carrier} (fits : type.Fits value) :
    type.encode value = .ok (type.form.schema.write (type.form.toValue value)) :=
  if_pos fits

theorem fits_of_encode {type : PayloadType} {value : type.Carrier} {bytes : Bytes}
    (encoded : type.encode value = .ok bytes) : type.Fits value := by
  simp only [encode] at encoded
  split at encoded
  next fits => exact fits
  next => simp at encoded

theorem decode_write {type : PayloadType} {value : type.Carrier} (fits : type.Fits value) :
    type.decode (type.form.schema.write (type.form.toValue value)) = .ok value := by
  simp only [decode, Schema.readRoot_write type.isArchivable_form fits.2, type.form.ofValue_toValue]

theorem decode_of_encode {type : PayloadType} {value : type.Carrier} {bytes : Bytes}
    (encoded : type.encode value = .ok bytes) : type.decode bytes = .ok value := by
  have fits := fits_of_encode encoded
  rw [encode_of_fits fits] at encoded
  obtain rfl := Except.ok.inj encoded
  exact decode_write fits

theorem decode_encode {type : PayloadType} {value : type.Carrier} (fits : type.Fits value) :
    ∃ bytes, type.encode value = .ok bytes ∧ type.decode bytes = .ok value :=
  ⟨_, encode_of_fits fits, decode_write fits⟩

/-- Names on both sides of the bound below which texts lie in place, and addresses of both kinds. -/
theorem heartbeat_is_read_back :
    let zone : SocketAddress := .v6 (.replicate 16 254) 8080 7 3
    let peers : List Peer := [⟨⟨"b"⟩, "seven..", zone⟩, ⟨⟨"c"⟩, "eight...", .unspecified⟩]
    let heartbeat : ControlFrame := ⟨⟨"a"⟩, "", .unspecified, .heartbeat, peers⟩
    PayloadType.control.Fits heartbeat ∧
      ∃ bytes, PayloadType.control.encode heartbeat = .ok bytes ∧
        PayloadType.control.decode bytes = .ok heartbeat := by
  intro zone peers heartbeat
  have fits : PayloadType.control.Fits heartbeat := by
    unfold Fits
    decide +kernel
  exact ⟨fits, decode_encode fits⟩

end PayloadType

end ClusterCoordination
