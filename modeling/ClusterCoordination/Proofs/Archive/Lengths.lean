import ClusterCoordination.Proofs.Archive.RoundTrip
/-!
# How long archives are

An archive is as long as the texts in it, up to padding and to the room that each value takes in
place.
-/

set_option autoImplicit false

namespace ClusterCoordination

theorem alignUp_lt (position : Nat) {alignment : Nat} (positive : 0 < alignment) :
    alignUp position alignment < position + alignment := by
  have rounded := Nat.div_mul_le_self (position + alignment - 1) alignment
  unfold alignUp
  omega

def Schema.PointsTo (schema : Schema) (value : schema.Value) (limit : Nat) : Prop :=
  ∀ position, (schema.place value position).before.length ≤ limit

def Fields.PointTo (fields : Fields) (values : fields.Values) (limit : Nat) : Prop :=
  ∀ offset position, (fields.place values offset position).before.length ≤ limit

theorem pointTo_nil : Fields.nil.PointTo () 0 := fun _ _ => Nat.le_refl 0

theorem pointTo_cons {head : Schema} {tail : Fields} {value : head.Value} {values : tail.Values}
    {first others : Nat} (points : head.PointsTo value first) (rest : tail.PointTo values others) :
    (Fields.cons head tail).PointTo (value, values) (first + others) := by
  intro offset position
  simp only [Fields.place, List.length_append]
  exact Nat.add_le_add (points _) (rest _ _)

theorem pointsTo_record {fields : Fields} {values : fields.Values} {limit : Nat}
    (point : fields.PointTo values limit) : (Schema.record fields).PointsTo values limit :=
  fun position => point 0 position

theorem pointsTo_text (text : String) : Schema.text.PointsTo text (textBytes text).length := by
  intro position
  simp only [Schema.place, placeText]
  split
  · exact Nat.zero_le _
  · exact Nat.le_refl _

theorem length_placeItems_le {item : Schema} {items : List item.Value} {limit : Nat}
    (each : ∀ value ∈ items, item.PointsTo value limit) (position : Nat) :
    (placeItems item.place items position).1.length ≤ items.length * limit := by
  induction items generalizing position with
  | nil => exact Nat.zero_le _
  | cons value rest ih =>
    have first := each value List.mem_cons_self position
    have others := ih (fun other among => each other (List.mem_cons_of_mem value among))
      (position + (item.place value position).before.length)
    simp only [placeItems, List.length_append, List.length_cons, Nat.succ_mul]
    omega

theorem pointsTo_list {item : Schema} {items : List item.Value} {limit : Nat}
    (each : ∀ value ∈ items, item.PointsTo value limit) :
    (Schema.list item).PointsTo items
      (items.length * limit + item.alignment + items.length * item.size) := by
  intro position
  have before := length_placeItems_le each position
  have padded := alignUp_lt (position + (placeItems item.place items position).1.length)
    item.alignment_pos
  simp only [Schema.place, placeList, List.length_append, Bytes.length_zeros,
    length_layItems item.length_inPlace]
  omega

theorem Schema.PointsTo.length_write_le {schema : Schema} {value : schema.Value} {limit : Nat}
    (points : schema.PointsTo value limit) :
    (schema.write value).length ≤ limit + schema.alignment + schema.size := by
  have before := points 0
  have padded := alignUp_lt (schema.place value 0).before.length schema.alignment_pos
  simp only [Schema.write, List.length_append, Bytes.length_zeros, schema.length_inPlace]
  omega

end ClusterCoordination
