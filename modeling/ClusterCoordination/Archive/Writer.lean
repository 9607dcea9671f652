import ClusterCoordination.Archive.Schema
/-!
# Writing archives

A value is written in two parts: first everything it points to, then, at an aligned position, the
value itself, with the distances to what was written. The value at the root comes last.
-/

set_option autoImplicit false

namespace ClusterCoordination

/-- A value that has been given a place: the bytes it points to, and its own bytes at a position. -/
structure Placed where
  before : Bytes
  inPlace : Nat → Bytes

def distance (position target : Nat) : Bytes :=
  Bytes.littleEndian 4 (((target : Int) - (position : Int)) % 4294967296).toNat

def inPlaceLimit : Nat := 7

/--
A short text lies in place with its length in the last byte. Of a longer one only the length and the
distance do.
-/
def placeText (text : String) (position : Nat) : Placed :=
  let bytes := textBytes text
  if bytes.length ≤ inPlaceLimit then
    { before := []
      inPlace := fun _ =>
        bytes ++ Bytes.zeros (inPlaceLimit - bytes.length) ++ [UInt8.ofNat bytes.length] }
  else
    { before := bytes
      inPlace := fun here => Bytes.littleEndian 4 bytes.length ++ distance here position }

def placeItems {Item : Type} (place : Item → Nat → Placed) :
    List Item → Nat → Bytes × List (Nat → Bytes)
  | [], _ => ([], [])
  | item :: rest, position =>
    let placed := place item position
    let (before, inPlaces) := placeItems place rest (position + placed.before.length)
    (placed.before ++ before, placed.inPlace :: inPlaces)

def layItems (size : Nat) : List (Nat → Bytes) → Nat → Bytes
  | [], _ => []
  | inPlace :: rest, position => inPlace position ++ layItems size rest (position + size)

def placeList {Item : Type} (place : Item → Nat → Placed) (size alignment : Nat)
    (items : List Item) (position : Nat) : Placed :=
  let (before, inPlaces) := placeItems place items position
  let start := alignUp (position + before.length) alignment
  { before := before ++ Bytes.zeros (start - (position + before.length)) ++
      layItems size inPlaces start
    inPlace := fun here => distance here start ++ Bytes.littleEndian 4 items.length }

mutual

def Schema.place : (schema : Schema) → schema.Value → Nat → Placed
  | .word width, word, _ => ⟨[], fun _ => Bytes.littleEndian width.bytes (width.value word)⟩
  | .flag, flag, _ => ⟨[], fun _ => [cond flag 1 0]⟩
  | .character, character, _ => ⟨[], fun _ => Bytes.littleEndian 4 character.toNat⟩
  | .text, text, position => placeText text position
  | .list item, items, position => placeList item.place item.size item.alignment items position
  | .record fields, values, position =>
    let placed := fields.place values 0 position
    { before := placed.before
      inPlace := fun here =>
        placed.inPlace here ++
          Bytes.zeros (alignUp (fields.finish 0) fields.alignment - fields.finish 0) }
  | .choice variants, chosen, position =>
    let placed := variants.place chosen 0 position
    { before := placed.before
      inPlace := fun here =>
        let bytes := placed.inPlace here
        bytes ++ Bytes.zeros (alignUp variants.finish variants.alignment - bytes.length) }

-- Places the fields of a record of which `offset` bytes are taken; `inPlace` is given its start.
def Fields.place : (fields : Fields) → fields.Values → Nat → Nat → Placed
  | .nil, _, _, _ => ⟨[], fun _ => []⟩
  | .cons head tail, (value, values), offset, position =>
    let start := alignUp offset head.alignment
    let first := head.place value position
    let others := tail.place values (start + head.size) (position + first.before.length)
    { before := first.before ++ others.before
      inPlace := fun here =>
        Bytes.zeros (start - offset) ++ first.inPlace (here + start) ++ others.inPlace here }

-- Places the chosen variant behind its tag, where `tag` is that of the first variant.
def Variants.place : (variants : Variants) → variants.Chosen → Nat → Nat → Placed
  | .cons head _, .inl values, tag, position =>
    let placed := head.place values 1 position
    { before := placed.before
      inPlace := fun here => UInt8.ofNat tag :: placed.inPlace here }
  | .cons _ tail, .inr chosen, tag, position => tail.place chosen (tag + 1) position

end

def Schema.write (schema : Schema) (value : schema.Value) : Bytes :=
  let placed := schema.place value 0
  let start := alignUp placed.before.length schema.alignment
  placed.before ++ Bytes.zeros (start - placed.before.length) ++ placed.inPlace start

end ClusterCoordination
