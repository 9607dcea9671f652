import ClusterCoordination.Bytes
/-!
# Archive schemas

A schema describes the shape of an archived value. It determines the values of that shape and where
their parts lie: every part has a size and an alignment, a record lays its fields out in order, and
a choice is a one byte tag with the fields of the chosen variant behind it.
-/

set_option autoImplicit false

namespace ClusterCoordination

inductive Width where
  | one
  | two
  | four
  | eight
deriving DecidableEq

namespace Width

def bytes : Width → Nat
  | one => 1
  | two => 2
  | four => 4
  | eight => 8

def Word : Width → Type
  | one => UInt8
  | two => UInt16
  | four => UInt32
  | eight => UInt64

def value : (width : Width) → width.Word → Nat
  | one, word => UInt8.toNat word
  | two, word => UInt16.toNat word
  | four, word => UInt32.toNat word
  | eight, word => UInt64.toNat word

def wordOf : (width : Width) → Nat → width.Word
  | one, value => UInt8.ofNat value
  | two, value => UInt16.ofNat value
  | four, value => UInt32.ofNat value
  | eight, value => UInt64.ofNat value

@[simp] theorem wordOf_value (width : Width) (word : width.Word) :
    width.wordOf (width.value word) = word := by
  cases width with
  | one => exact UInt8.ofNat_toNat
  | two => exact UInt16.ofNat_toNat
  | four => exact UInt32.ofNat_toNat
  | eight => exact UInt64.ofNat_toNat

end Width

mutual

inductive Schema where
  | word (width : Width)
  | flag
  | character
  | text
  | list (item : Schema)
  | record (fields : Fields)
  | choice (variants : Variants)

inductive Fields where
  | nil
  | cons (head : Schema) (tail : Fields)

inductive Variants where
  | nil
  | cons (head : Fields) (tail : Variants)

end

mutual

def Schema.Value : Schema → Type
  | .word width => width.Word
  | .flag => Bool
  | .character => Char
  | .text => String
  | .list item => List item.Value
  | .record fields => fields.Values
  | .choice variants => variants.Chosen

def Fields.Values : Fields → Type
  | .nil => Unit
  | .cons head tail => head.Value × tail.Values

def Variants.Chosen : Variants → Type
  | .nil => Empty
  | .cons head tail => head.Values ⊕ tail.Chosen

end

def alignUp (position alignment : Nat) : Nat :=
  (position + alignment - 1) / alignment * alignment

mutual

def Schema.alignment : Schema → Nat
  | .word width => width.bytes
  | .flag => 1
  | .character | .text | .list _ => 4
  | .record fields => fields.alignment
  | .choice variants => variants.alignment

def Fields.alignment : Fields → Nat
  | .nil => 1
  | .cons head tail => max head.alignment tail.alignment

def Variants.alignment : Variants → Nat
  | .nil => 1
  | .cons head tail => max head.alignment tail.alignment

end

mutual

/-- How many bytes a value takes in place, what it points to not counted. -/
def Schema.size : Schema → Nat
  | .word width => width.bytes
  | .flag => 1
  | .character => 4
  | .text | .list _ => 8
  | .record fields => alignUp (fields.finish 0) fields.alignment
  | .choice variants => alignUp variants.finish variants.alignment

-- Where the last of the fields ends when the first of them may start at `offset`.
def Fields.finish : Fields → Nat → Nat
  | .nil, offset => offset
  | .cons head tail, offset => tail.finish (alignUp offset head.alignment + head.size)

def Variants.finish : Variants → Nat
  | .nil => 1
  | .cons head tail => max (head.finish 1) tail.finish

end

def Variants.count : Variants → Nat
  | .nil => 0
  | .cons _ tail => tail.count + 1

mutual

/-- Every tag fits into its byte, and the items of every list take room. -/
def Schema.isArchivable : Schema → Bool
  | .word _ | .flag | .character | .text => true
  | .list item => decide (0 < item.size) && item.isArchivable
  | .record fields => fields.isArchivable
  | .choice variants => decide (variants.count ≤ 256) && variants.isArchivable

def Fields.isArchivable : Fields → Bool
  | .nil => true
  | .cons head tail => head.isArchivable && tail.isArchivable

def Variants.isArchivable : Variants → Bool
  | .nil => true
  | .cons head tail => head.isArchivable && tail.isArchivable

end

end ClusterCoordination
