import ClusterCoordination.Archive.Writer
/-!
# The room that archived values take

Whatever a value is, it takes in place exactly as many bytes as its schema has.
-/

set_option autoImplicit false

namespace ClusterCoordination

theorem le_alignUp (position : Nat) {alignment : Nat} (positive : 0 < alignment) :
    position ≤ alignUp position alignment := by
  have split := Nat.div_add_mod (position + alignment - 1) alignment
  have remainder := Nat.mod_lt (position + alignment - 1) positive
  unfold alignUp
  rw [Nat.mul_comm]
  omega

theorem alignUp_mod (position alignment : Nat) : alignUp position alignment % alignment = 0 :=
  Nat.mul_mod_left _ _

theorem Width.bytes_pos (width : Width) : 0 < width.bytes := by
  cases width <;> decide

mutual

theorem Schema.alignment_pos : (schema : Schema) → 0 < schema.alignment
  | .word width => width.bytes_pos
  | .flag | .character | .text | .list _ => by simp [Schema.alignment]
  | .record fields => fields.alignment_pos
  | .choice variants => variants.alignment_pos

theorem Fields.alignment_pos : (fields : Fields) → 0 < fields.alignment
  | .nil => by simp [Fields.alignment]
  | .cons head tail => by
    have first := head.alignment_pos
    simp only [Fields.alignment]
    omega

theorem Variants.alignment_pos : (variants : Variants) → 0 < variants.alignment
  | .nil => by simp [Variants.alignment]
  | .cons head tail => by
    have first := head.alignment_pos
    simp only [Variants.alignment]
    omega

end

theorem Fields.le_finish (fields : Fields) (offset : Nat) : offset ≤ fields.finish offset := by
  cases fields with
  | nil => simp [Fields.finish]
  | cons head tail =>
    have aligned := le_alignUp offset head.alignment_pos
    have rest := tail.le_finish (alignUp offset head.alignment + head.size)
    simp only [Fields.finish]
    omega

theorem length_distance (position target : Nat) : (distance position target).length = 4 := by
  simp [distance]

theorem length_placeText (text : String) (position here : Nat) :
    ((placeText text position).inPlace here).length = 8 := by
  unfold placeText inPlaceLimit
  by_cases short : (textBytes text).length ≤ 7
  · simp only [short, if_true, List.length_append, Bytes.length_zeros, List.length_singleton]
    omega
  · simp [short, length_distance]

theorem length_placeList {Item : Type} (place : Item → Nat → Placed) (size alignment : Nat)
    (items : List Item) (position here : Nat) :
    ((placeList place size alignment items position).inPlace here).length = 8 := by
  simp [placeList, length_distance]

mutual

theorem Schema.length_inPlace : (schema : Schema) → (value : schema.Value) →
    (position here : Nat) → ((schema.place value position).inPlace here).length = schema.size
  | .word width, word, _, _ => by simp [Schema.place, Schema.size]
  | .flag, flag, _, _ => by simp [Schema.place, Schema.size]
  | .character, character, _, _ => by simp [Schema.place, Schema.size]
  | .text, text, position, here => length_placeText text position here
  | .list item, items, position, here =>
    length_placeList item.place item.size item.alignment items position here
  | .record fields, values, position, here => by
    have inside := fields.length_inPlace values 0 position here
    have padded := le_alignUp (fields.finish 0) fields.alignment_pos
    simp only [Schema.place, Schema.size, List.length_append, Bytes.length_zeros, inside]
    omega
  | .choice variants, chosen, position, here => by
    have inside := variants.length_inPlace_le chosen 0 position here
    have padded := le_alignUp variants.finish variants.alignment_pos
    simp only [Schema.place, Schema.size, List.length_append, Bytes.length_zeros]
    omega

theorem Fields.length_inPlace : (fields : Fields) → (values : fields.Values) →
    (offset position here : Nat) →
      ((fields.place values offset position).inPlace here).length = fields.finish offset - offset
  | .nil, _, offset, _, _ => by simp [Fields.place, Fields.finish]
  | .cons head tail, (value, values), offset, position, here => by
    have aligned := le_alignUp offset head.alignment_pos
    have room := tail.le_finish (alignUp offset head.alignment + head.size)
    have first := head.length_inPlace value position (here + alignUp offset head.alignment)
    have others := tail.length_inPlace values (alignUp offset head.alignment + head.size)
      (position + (head.place value position).before.length) here
    simp only [Fields.place, Fields.finish, List.length_append, Bytes.length_zeros, first, others]
    omega

theorem Variants.length_inPlace_le : (variants : Variants) → (chosen : variants.Chosen) →
    (tag position here : Nat) →
      ((variants.place chosen tag position).inPlace here).length ≤ variants.finish
  | .cons head tail, .inl values, tag, position, here => by
    have inside := head.length_inPlace values 1 position here
    have room := head.le_finish 1
    simp only [Variants.place, Variants.finish, List.length_cons, inside]
    omega
  | .cons head tail, .inr chosen, tag, position, here => by
    have inside := tail.length_inPlace_le chosen (tag + 1) position here
    simp only [Variants.place, Variants.finish]
    omega

end

end ClusterCoordination
