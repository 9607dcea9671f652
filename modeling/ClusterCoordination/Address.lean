/-!
# Socket addresses

Addresses of both families, their order, and their text: dotted decimal, or bracketed hexadecimal
groups with the longest run of at least two zero groups written as a double colon.
-/

set_option autoImplicit false

namespace ClusterCoordination

/-- Where a socket is bound. The flow label takes part in equality and is never written. -/
inductive SocketAddress where
  | v4 (octets : Vector UInt8 4) (portNumber : UInt16)
  | v6 (octets : Vector UInt8 16) (portNumber : UInt16) (flow : UInt32) (zone : UInt32)
deriving DecidableEq

namespace SocketAddress

def unspecified : SocketAddress := .v4 (Vector.replicate 4 0) 0

def portNumber : SocketAddress → UInt16
  | .v4 _ number => number
  | .v6 _ number _ _ => number

def sortKey : SocketAddress → List Nat
  | .v4 octets number => 0 :: octets.toList.map UInt8.toNat ++ [number.toNat]
  | .v6 octets number flow zone =>
    1 :: octets.toList.map UInt8.toNat ++ [number.toNat, flow.toNat, zone.toNat]

-- Of two sequences of numbers the first does not come after the second in a dictionary.
def lexicographicLe : List Nat → List Nat → Bool
  | [], _ => true
  | _ :: _, [] => false
  | first :: rest, other :: others =>
    first < other || (first == other && lexicographicLe rest others)

def le (a b : SocketAddress) : Bool := lexicographicLe a.sortKey b.sortKey

def hexadecimal (value : Nat) : String := String.ofList (Nat.toDigits 16 value)

def dotted (octets : List UInt8) : String :=
  String.intercalate "." (octets.map fun octet => toString octet.toNat)

def groups : List UInt8 → List Nat
  | high :: low :: rest => (high.toNat * 256 + low.toNat) :: groups rest
  | _ => []

def longestZeroRun (values : List Nat) : Nat × Nat :=
  let scan := values.foldl (fun (index, current, best) value =>
    if value = 0 then
      let run := if current.2 = 0 then (index, 1) else (current.1, current.2 + 1)
      (index + 1, run, if best.2 < run.2 then run else best)
    else (index + 1, (0, 0), best)) (0, ((0, 0) : Nat × Nat), ((0, 0) : Nat × Nat))
  scan.2.2

def colonSeparated (values : List Nat) : String :=
  String.intercalate ":" (values.map hexadecimal)

def groupedText (octets : List UInt8) : String :=
  if octets.take 12 = List.replicate 10 0 ++ [255, 255] then
    "::ffff:" ++ dotted (octets.drop 12)
  else
    let values := groups octets
    let (start, length) := longestZeroRun values
    if 1 < length then
      colonSeparated (values.take start) ++ "::" ++ colonSeparated (values.drop (start + length))
    else colonSeparated values

def hostText : SocketAddress → String
  | .v4 octets _ => dotted octets.toList
  | .v6 octets _ _ _ => groupedText octets.toList

def text (address : SocketAddress) : String :=
  let number := toString address.portNumber.toNat
  match address with
  | .v4 _ _ => address.hostText ++ ":" ++ number
  | .v6 _ _ _ zone =>
    let zoneText := if zone = 0 then "" else "%" ++ toString zone.toNat
    "[" ++ address.hostText ++ zoneText ++ "]:" ++ number

def digitValue (base : Nat) (c : Char) : Option Nat :=
  let value :=
    if '0' ≤ c ∧ c ≤ '9' then some (c.toNat - '0'.toNat)
    else if 'a' ≤ c ∧ c ≤ 'f' then some (c.toNat - 'a'.toNat + 10)
    else if 'A' ≤ c ∧ c ≤ 'F' then some (c.toNat - 'A'.toNat + 10)
    else none
  value.filter (· < base)

structure NumberForm where
  base : Nat
  limit : Nat
  digits : Option Nat
  leadingZero : Bool

def NumberForm.octet : NumberForm := ⟨10, 255, some 3, false⟩
def NumberForm.group : NumberForm := ⟨16, 65535, some 4, true⟩
def NumberForm.number : NumberForm := ⟨10, 65535, none, true⟩
def NumberForm.zone : NumberForm := ⟨10, 4294967295, none, true⟩

def NumberForm.read (form : NumberForm) (input : List Char) : Option (Nat × List Char) :=
  let digits := input.takeWhile fun c => (digitValue form.base c).isSome
  let value := digits.foldl (fun total c => total * form.base + (digitValue form.base c).getD 0) 0
  if digits.isEmpty then none
  else if form.digits.any (· < digits.length) then none
  else if !form.leadingZero && digits.head? == some '0' && 1 < digits.length then none
  else if form.limit < value then none
  else some (value, input.drop digits.length)

def readCharacter (expected : Char) : List Char → Option (List Char)
  | c :: rest => if c = expected then some rest else none
  | [] => none

def readOctets : Nat → List Char → Option (List UInt8 × List Char)
  | 0, input => some ([], input)
  | 1, input => do
    let (value, rest) ← NumberForm.octet.read input
    some ([UInt8.ofNat value], rest)
  | count + 2, input => do
    let (value, rest) ← NumberForm.octet.read input
    let rest ← readCharacter '.' rest
    let (octets, rest) ← readOctets (count + 1) rest
    some (UInt8.ofNat value :: octets, rest)

/--
At most `room` groups with colons between them, as octets, and whether the last two of them were
written in dotted decimal.
-/
def readGroups : Nat → Bool → List Char → List UInt8 × Bool × List Char
  | 0, _, input => ([], false, input)
  | room + 1, first, input =>
    match if first then some input else readCharacter ':' input with
    | none => ([], false, input)
    | some rest =>
      match if room = 0 then none else readOctets 4 rest with
      | some (octets, rest) => (octets, true, rest)
      | none =>
        match NumberForm.group.read rest with
        | none => ([], false, input)
        | some (value, rest) =>
          let (octets, dotted, rest) := readGroups room false rest
          (UInt8.ofNat (value / 256) :: UInt8.ofNat value :: octets, dotted, rest)

/-- The sixteen octets of a host, written in full or with one double colon. -/
def readHost (input : List Char) : Option (List UInt8 × List Char) :=
  let (front, dotted, rest) := readGroups 8 true input
  if front.length = 16 then some (front, rest)
  else if dotted then none
  else do
    let rest ← readCharacter ':' rest
    let rest ← readCharacter ':' rest
    let (back, _, rest) := readGroups (8 - (front.length / 2 + 1)) true rest
    some (front ++ List.replicate (16 - front.length - back.length) 0 ++ back, rest)

def toVector? (count : Nat) (values : List UInt8) : Option (Vector UInt8 count) :=
  if exact : values.toArray.size = count then some ⟨values.toArray, exact⟩ else none

def readNumber (input : List Char) : Option (UInt16 × List Char) := do
  let rest ← readCharacter ':' input
  let (value, rest) ← NumberForm.number.read rest
  some (UInt16.ofNat value, rest)

def readV4 (input : List Char) : Option (SocketAddress × List Char) := do
  let (octets, rest) ← readOctets 4 input
  let (number, rest) ← readNumber rest
  let octets ← toVector? 4 octets
  some (.v4 octets number, rest)

def readZone (input : List Char) : UInt32 × List Char :=
  match readCharacter '%' input >>= NumberForm.zone.read with
  | some (value, rest) => (UInt32.ofNat value, rest)
  | none => (0, input)

def readV6 (input : List Char) : Option (SocketAddress × List Char) := do
  let rest ← readCharacter '[' input
  let (octets, rest) ← readHost rest
  let (zone, rest) := readZone rest
  let rest ← readCharacter ']' rest
  let (number, rest) ← readNumber rest
  let octets ← toVector? 16 octets
  some (.v6 octets number 0 zone, rest)

def ofText? (input : String) : Option SocketAddress :=
  match readV4 input.toList <|> readV6 input.toList with
  | some (address, []) => some address
  | _ => none

end SocketAddress

end ClusterCoordination
