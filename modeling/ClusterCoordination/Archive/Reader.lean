import ClusterCoordination.Archive.Schema
/-!
# Reading archives

A reader checks as it reads. What a value points to is a block of bytes, and blocks must follow one
another in the order of the parts that point to them, each before the block that holds the pointer.
So reading carries a floor, below which everything has been claimed, and a ceiling, where the block
being read starts; entering a block makes its start the ceiling, and leaving it makes its end the
floor.
-/

set_option autoImplicit false

namespace ClusterCoordination

def window (buffer : Array UInt8) (position count : Nat) : Bytes :=
  (buffer.extract position (position + count)).toList

def follow? (position : Nat) (bytes : Bytes) : Option Nat :=
  let unsigned := Bytes.toNat bytes
  let signed : Int := if unsigned < 2147483648 then unsigned else unsigned - 4294967296
  let target := (position : Int) + signed
  if target < 0 then none else some target.toNat

def InRange (floor ceiling start size : Nat) : Prop :=
  floor ≤ start ∧ start + size ≤ ceiling

instance (floor ceiling start size : Nat) : Decidable (InRange floor ceiling start size) :=
  inferInstanceAs (Decidable (_ ∧ _))

def readText (buffer : Array UInt8) (position floor ceiling : Nat) : Option (String × Nat) :=
  let bytes := window buffer position 8
  -- Distances are negative, so their last byte is never that of a length kept in place.
  let last := Bytes.toNat (bytes.drop 7)
  if last < 128 then
    if last ≤ 7 then (Bytes.text? (bytes.take last)).map (·, floor) else none
  else
    let length := Bytes.toNat (bytes.take 4)
    match follow? position (bytes.drop 4) with
    | none => none
    | some start =>
      if InRange floor ceiling start length then
        (Bytes.text? (window buffer start length)).map (·, start + length)
      else none

def readItems {Item : Type} (read : Nat → Nat → Option (Item × Nat)) (size : Nat) :
    Nat → Nat → Nat → Option (List Item)
  | 0, _, _ => some []
  | count + 1, position, floor =>
    match read position floor with
    | none => none
    | some (item, floor) =>
      match readItems read size count (position + size) floor with
      | none => none
      | some rest => some (item :: rest)

-- `read` is given a position, the floor and the ceiling.
def readList {Item : Type} (read : Nat → Nat → Nat → Option (Item × Nat)) (size alignment : Nat)
    (buffer : Array UInt8) (position floor ceiling : Nat) : Option (List Item × Nat) :=
  let bytes := window buffer position 8
  let count := Bytes.toNat (bytes.drop 4)
  match follow? position (bytes.take 4) with
  | none => none
  | some start =>
    if start % alignment = 0 ∧ InRange floor ceiling start (count * size) then
      match readItems (fun here floor => read here floor start) size count start floor with
      | none => none
      | some items => some (items, start + count * size)
    else none

def character? (value : Nat) : Option Char :=
  if valid : value.isValidChar then some (Char.ofNatAux value valid) else none

mutual

/-- Reads the value at a position, and the floor behind everything it points to. -/
def Schema.read (buffer : Array UInt8) :
    (schema : Schema) → (position floor ceiling : Nat) → Option (schema.Value × Nat)
  | .word width, position, floor, _ =>
    some (width.wordOf (Bytes.toNat (window buffer position width.bytes)), floor)
  | .flag, position, floor, _ =>
    match Bytes.toNat (window buffer position 1) with
    | 0 => some (false, floor)
    | 1 => some (true, floor)
    | _ => none
  | .character, position, floor, _ =>
    (character? (Bytes.toNat (window buffer position 4))).map (·, floor)
  | .text, position, floor, ceiling => readText buffer position floor ceiling
  | .list item, position, floor, ceiling =>
    readList (item.read buffer) item.size item.alignment buffer position floor ceiling
  | .record fields, position, floor, ceiling => fields.read buffer position 0 floor ceiling
  | .choice variants, position, floor, ceiling =>
    variants.read buffer (Bytes.toNat (window buffer position 1)) position floor ceiling

-- Reads the fields of the record at a position of which `offset` bytes are taken.
def Fields.read (buffer : Array UInt8) :
    (fields : Fields) → (position offset floor ceiling : Nat) → Option (fields.Values × Nat)
  | .nil, _, _, floor, _ => some ((), floor)
  | .cons head tail, position, offset, floor, ceiling =>
    let start := alignUp offset head.alignment
    match head.read buffer (position + start) floor ceiling with
    | none => none
    | some (value, floor) =>
      match tail.read buffer position (start + head.size) floor ceiling with
      | none => none
      | some (values, floor) => some ((value, values), floor)

def Variants.read (buffer : Array UInt8) :
    (variants : Variants) → (tag position floor ceiling : Nat) → Option (variants.Chosen × Nat)
  | .nil, _, _, _, _ => none
  | .cons head _, 0, position, floor, ceiling =>
    match head.read buffer position 1 floor ceiling with
    | none => none
    | some (values, floor) => some (.inl values, floor)
  | .cons _ tail, tag + 1, position, floor, ceiling =>
    match tail.read buffer tag position floor ceiling with
    | none => none
    | some (chosen, floor) => some (.inr chosen, floor)

end

def Schema.readRoot (schema : Schema) (bytes : Bytes) : Option schema.Value :=
  let buffer := bytes.toArray
  if schema.size ≤ buffer.size then
    let start := buffer.size - schema.size
    if start % schema.alignment = 0 then (schema.read buffer start 0 start).map (·.1) else none
  else none

end ClusterCoordination
