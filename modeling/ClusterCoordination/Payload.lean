import ClusterCoordination.Archive.Form
import ClusterCoordination.Archive.Reader
import ClusterCoordination.Archive.Writer
import ClusterCoordination.Wire.Frame
/-!
# Payloads

The types of values that messages, arguments and replies may have, the names that tag them, and
their archives.
-/

set_option autoImplicit false

namespace ClusterCoordination

def SocketAddress.form : Form SocketAddress :=
  (Form.choice
    (.cons (.single (.record (.cons (.octets 4) (.single .u16))))
      (.cons (.single (.record (.cons (.octets 16) (.cons .u16 (.cons .u32 (.single .u32))))))
        .nil))).map
    (fun
      | .v4 octets number => .inl (octets, number)
      | .v6 octets number flow zone => .inr (.inl (octets, number, flow, zone)))
    (fun
      | .inl (octets, number) => .v4 octets number
      | .inr (.inl (octets, number, flow, zone)) => .v6 octets number flow zone)
    (fun
      | .v4 .. => rfl
      | .v6 .. => rfl)

def MemberId.form : Form MemberId := Form.text.map MemberId.text MemberId.mk (fun _ => rfl)

namespace ErrorCode

def index : ErrorCode → Fin 5
  | .serviceUnavailable => 0
  | .internalError => 1
  | .invalidPayload => 2
  | .connectionError => 3
  | .timeout => 4

def ofIndex : Fin 5 → ErrorCode
  | 0 => .serviceUnavailable
  | 1 => .internalError
  | 2 => .invalidPayload
  | 3 => .connectionError
  | 4 => .timeout

def form : Form ErrorCode :=
  (Form.choice (.numbered 5)).map index ofIndex (fun code => by cases code <;> rfl)

end ErrorCode

def Status.form : Form Status :=
  (Form.record (.cons ErrorCode.form (.single .text))).map
    (fun status => (status.code, status.message))
    (fun (code, message) => ⟨code, message⟩)
    (fun _ => rfl)

def Peer.form : Form Peer :=
  (Form.record (.cons MemberId.form (.cons .text (.single SocketAddress.form)))).map
    (fun peer => (peer.id, peer.name, peer.address))
    (fun (id, name, address) => ⟨id, name, address⟩)
    (fun _ => rfl)

namespace ControlKind

def index : ControlKind → Fin 3
  | .join => 0
  | .heartbeat => 1
  | .leave => 2

def ofIndex : Fin 3 → ControlKind
  | 0 => .join
  | 1 => .heartbeat
  | 2 => .leave

def form : Form ControlKind :=
  (Form.choice (.numbered 3)).map index ofIndex (fun kind => by cases kind <;> rfl)

end ControlKind

def ControlFrame.form : Form ControlFrame :=
  (Form.record (.cons MemberId.form (.cons .text (.cons SocketAddress.form
    (.cons ControlKind.form (.single (.list Peer.form))))))).map
    (fun frame => (frame.sender, frame.name, frame.address, frame.kind, frame.peers))
    (fun (sender, name, address, kind, peers) => ⟨sender, name, address, kind, peers⟩)
    (fun _ => rfl)

def Request.form : Form Request :=
  (Form.record (.cons .u64 (.cons .text (.cons .text (.cons (.list .text)
    (.cons (.list (.list .u8)) (.cons .u64 (.single SocketAddress.form)))))))).map
    (fun request =>
      (request.correlation, request.targetType, request.method, request.argumentTypes,
        request.arguments, request.deadline, request.replyAddress))
    (fun (correlation, targetType, method, argumentTypes, arguments, deadline, replyAddress) =>
      ⟨correlation, targetType, method, argumentTypes, arguments, deadline, replyAddress⟩)
    (fun _ => rfl)

def Response.outcomeForm : Form (Except Status Bytes) :=
  (Form.choice (.cons (.single (.list .u8)) (.cons (.single Status.form) .nil))).map
    (fun
      | .ok reply => .inl reply
      | .error status => .inr (.inl status))
    (fun
      | .inl reply => .ok reply
      | .inr (.inl status) => .error status)
    (fun
      | .ok _ => rfl
      | .error _ => rfl)

def Response.form : Form Response :=
  (Form.record (.cons .u64 (.single Response.outcomeForm))).map
    (fun response => (response.correlation, response.outcome))
    (fun (correlation, outcome) => ⟨correlation, outcome⟩)
    (fun _ => rfl)

/--
The types that are built in, and those that an application declares under a name of its own. Their
values are archived by code of the application, which may refuse some.
-/
inductive PayloadType where
  | u8 | i8 | u16 | i16 | u32 | i32 | u64 | i64
  | flag | unit | character | text | bytes
  | u64List | textList | bytesList
  | optionalU32 | optionalText
  | address | status | peer | control | request | response
  | declared (name : String) (schema : Schema) (archivable : schema.isArchivable = true)
      (refuses : schema.Value → Bool)

namespace PayloadType

def Carrier : PayloadType → Type
  | .u8 => UInt8
  | .i8 => Int8
  | .u16 => UInt16
  | .i16 => Int16
  | .u32 => UInt32
  | .i32 => Int32
  | .u64 => UInt64
  | .i64 => Int64
  | .flag => Bool
  | .unit => Unit
  | .character => Char
  | .text => String
  | .bytes => Bytes
  | .u64List => List UInt64
  | .textList => List String
  | .bytesList => List Bytes
  | .optionalU32 => Option UInt32
  | .optionalText => Option String
  | .address => SocketAddress
  | .status => Status
  | .peer => Peer
  | .control => ControlFrame
  | .request => Request
  | .response => Response
  | .declared _ schema _ _ => schema.Value

/-- The name that tags values of a type on the wire. -/
def tag : PayloadType → String
  | .u8 => "u8"
  | .i8 => "i8"
  | .u16 => "u16"
  | .i16 => "i16"
  | .u32 => "u32"
  | .i32 => "i32"
  | .u64 => "u64"
  | .i64 => "i64"
  | .flag => "bool"
  | .unit => "()"
  | .character => "char"
  | .text => "alloc::string::String"
  | .bytes => "alloc::vec::Vec<u8>"
  | .u64List => "alloc::vec::Vec<u64>"
  | .textList => "alloc::vec::Vec<alloc::string::String>"
  | .bytesList => "alloc::vec::Vec<alloc::vec::Vec<u8>>"
  | .optionalU32 => "core::option::Option<u32>"
  | .optionalText => "core::option::Option<alloc::string::String>"
  | .address => "core::net::socket_addr::SocketAddr"
  | .status => "cohort_rpc::status::Status"
  | .peer => "cohort_rpc::frames::PeerInfo"
  | .control => "cohort_rpc::frames::ControlFrame"
  | .request => "cohort_rpc::frames::RpcRequest"
  | .response => "cohort_rpc::frames::RpcResponse"
  | .declared name _ _ _ => name

def form : (type : PayloadType) → Form type.Carrier
  | .u8 => Form.u8
  | .i8 => Form.i8
  | .u16 => Form.u16
  | .i16 => Form.i16
  | .u32 => Form.u32
  | .i32 => Form.i32
  | .u64 => Form.u64
  | .i64 => Form.i64
  | .flag => Form.flag
  | .unit => Form.unit
  | .character => Form.character
  | .text => Form.text
  | .bytes => Form.list Form.u8
  | .u64List => Form.list Form.u64
  | .textList => Form.list Form.text
  | .bytesList => Form.list (Form.list Form.u8)
  | .optionalU32 => Form.option Form.u32
  | .optionalText => Form.option Form.text
  | .address => SocketAddress.form
  | .status => Status.form
  | .peer => Peer.form
  | .control => ControlFrame.form
  | .request => Request.form
  | .response => Response.form
  | .declared _ schema _ _ => Form.plain schema

def refuses : (type : PayloadType) → type.Carrier → Bool
  | .declared _ _ _ refuses => refuses
  | _ => fun _ => false

def archiveLimit : Nat := 2147483648

/-- The archive of a value that is not refused, as long as distances within it can be written. -/
def encode (type : PayloadType) (value : type.Carrier) : Except Status Bytes :=
  let archive := type.form.schema.write (type.form.toValue value)
  if type.refuses value = false ∧ archive.length < archiveLimit then .ok archive
  else .error (.invalidWith ("Failed to serialize value of type " ++ type.tag))

def decode (type : PayloadType) (bytes : Bytes) : Except Status type.Carrier :=
  match type.form.schema.readRoot bytes with
  | some value => .ok (type.form.ofValue value)
  | none => .error (.invalidWith ("Payload is not a valid archived " ++ type.tag))

end PayloadType

structure Payload where
  type : PayloadType
  value : type.Carrier

def Payload.encode (payload : Payload) : Except Status Bytes := payload.type.encode payload.value

end ClusterCoordination
