import ClusterCoordination.Archive.Reader
import ClusterCoordination.Archive.Words
import ClusterCoordination.Proofs.Archive.Layout
/-!
# Archives are read back

A reader that is put where a value was placed, in a buffer that holds what was written, finds that
value. The blocks that the writer lays out follow one another as the reader demands.
-/

set_option autoImplicit false

namespace ClusterCoordination

def Holds (buffer : Array UInt8) (position : Nat) (bytes : Bytes) : Prop :=
  bytes <+: buffer.toList.drop position

section

variable {buffer : Array UInt8} {position : Nat} {bytes : Bytes}

theorem window_eq (buffer : Array UInt8) (position count : Nat) :
    window buffer position count = (buffer.toList.drop position).take count := by
  simp [window]

theorem Holds.window {count : Nat} (held : Holds buffer position bytes)
    (length : bytes.length = count) : window buffer position count = bytes := by
  obtain ⟨rest, split⟩ := held
  rw [window_eq, ← split, ← length, List.take_left]

theorem Holds.end_le (held : Holds buffer position bytes) (some : 0 < bytes.length) :
    position + bytes.length ≤ buffer.size := by
  have inside := held.length_le
  have size : buffer.toList.length = buffer.size := Array.length_toList
  rw [List.length_drop] at inside
  omega

theorem holds_append {first second : Bytes} :
    Holds buffer position (first ++ second) ↔
      Holds buffer position first ∧ Holds buffer (position + first.length) second := by
  unfold Holds
  rw [← List.drop_drop]
  constructor
  · rintro ⟨rest, split⟩
    rw [← split, List.append_assoc]
    exact ⟨⟨second ++ rest, rfl⟩, by rw [List.drop_left]; exact ⟨rest, rfl⟩⟩
  · rintro ⟨⟨later, front⟩, ⟨rest, back⟩⟩
    rw [← front, List.drop_left] at back
    exact ⟨rest, by rw [← front, ← back, List.append_assoc]⟩

end

theorem follow?_distance {position target : Nat} (back : target ≤ position)
    (near : position ≤ target + 2147483648) :
    follow? position (distance position target) = some target := by
  have number : Bytes.toNat (distance position target) =
      (((target : Int) - position) % 4294967296).toNat := by
    apply Bytes.toNat_littleEndian_of_lt
    omega
  have inside (signed : Int) (found : (position : Int) + signed = target) :
      (if (position : Int) + signed < 0 then none else some ((position : Int) + signed).toNat) =
        some target := by
    simp [found]
  apply inside
  rw [number]
  split <;> omega

theorem last_distance {position target : Nat} (back : target < position)
    (near : position ≤ target + 2147483648) :
    128 ≤ Bytes.toNat ((distance position target).drop 3) := by
  rw [distance, Bytes.drop_littleEndian, Bytes.toNat_littleEndian]
  omega

def FindsBefore {Value : Type} (finish : Nat) (value : Value)
    (result : Option (Value × Nat)) : Prop :=
  ∃ floor, result = some (value, floor) ∧ floor ≤ finish

/--
What was placed lies in the buffer: what the value points to at `position`, between floor and
ceiling, and the value itself at `here`.
-/
structure Placed.Lies (placed : Placed) (buffer : Array UInt8) (position here floor ceiling : Nat) :
    Prop where
  before : Holds buffer position placed.before
  inPlace : Holds buffer here (placed.inPlace here)
  above : floor ≤ position
  below : position + placed.before.length ≤ ceiling
  behind : ceiling ≤ here

def ReadsBack {Value : Type} (buffer : Array UInt8) (place : Value → Nat → Placed)
    (read : Nat → Nat → Nat → Option (Value × Nat)) : Prop :=
  ∀ ⦃value : Value⦄ ⦃position here floor ceiling : Nat⦄,
    (place value position).Lies buffer position here floor ceiling →
      FindsBefore (position + (place value position).before.length) value (read here floor ceiling)

theorem readText_of_short {buffer : Array UInt8} {text : String} {here floor ceiling : Nat}
    (short : (textBytes text).length ≤ 7)
    (bytes : window buffer here 8 =
      textBytes text ++ Bytes.zeros (7 - (textBytes text).length) ++
        [UInt8.ofNat (textBytes text).length]) :
    readText buffer here floor ceiling = some (text, floor) := by
  have front : (textBytes text ++ Bytes.zeros (7 - (textBytes text).length)).length = 7 := by
    simp only [List.length_append, Bytes.length_zeros]
    omega
  have last : Bytes.toNat ((window buffer here 8).drop 7) = (textBytes text).length := by
    rw [bytes, List.drop_left' front]
    simp only [Bytes.toNat, UInt8.toNat_ofNat']
    omega
  have found : Bytes.text? ((window buffer here 8).take (textBytes text).length) = some text := by
    rw [bytes, List.append_assoc, List.take_left, text?_textBytes]
  have kept : (textBytes text).length < 128 := by omega
  simp [readText, last, kept, short, found]

theorem readText_of_long {buffer : Array UInt8} {text : String} {start here floor ceiling : Nat}
    (small : buffer.size < 2147483648) (long : 7 < (textBytes text).length)
    (bytes : window buffer here 8 =
      Bytes.littleEndian 4 (textBytes text).length ++ distance here start)
    (inside : here ≤ buffer.size) (held : Holds buffer start (textBytes text))
    (above : floor ≤ start) (below : start + (textBytes text).length ≤ ceiling)
    (behind : ceiling ≤ here) :
    readText buffer here floor ceiling = some (text, start + (textBytes text).length) := by
  -- The last byte belongs to the distance, which is negative, and so is no length of a short text.
  have far : ¬ Bytes.toNat ((window buffer here 8).drop 7) < 128 := by
    have last : 128 ≤ Bytes.toNat ((distance here start).drop 3) :=
      last_distance (by omega) (by omega)
    have split : (window buffer here 8).drop 7 = (distance here start).drop 3 := by
      rw [bytes, List.drop_append, Bytes.drop_littleEndian]
      simp
    rw [split]
    omega
  have length : Bytes.toNat ((window buffer here 8).take 4) = (textBytes text).length := by
    rw [bytes, List.take_left' (by simp)]
    exact Bytes.toNat_littleEndian_of_lt (by omega)
  have target : follow? here ((window buffer here 8).drop 4) = some start := by
    rw [bytes, List.drop_left' (by simp)]
    exact follow?_distance (by omega) (by omega)
  have range : InRange floor ceiling start (textBytes text).length := ⟨above, below⟩
  simp [readText, far, length, target, range, held.window rfl, text?_textBytes]

theorem readText_placeText {buffer : Array UInt8} (small : buffer.size < 2147483648) :
    ReadsBack buffer placeText (readText buffer) := by
  intro text position here floor ceiling lies
  have bytes := lies.inPlace.window (length_placeText text position here)
  have inside := lies.inPlace.end_le (by rw [length_placeText]; decide)
  have before := lies.before
  have below := lies.below
  rw [length_placeText] at inside
  by_cases short : (textBytes text).length ≤ 7
  · simp only [placeText, inPlaceLimit, short, if_true] at bytes ⊢
    exact ⟨floor, readText_of_short short bytes, lies.above⟩
  · simp only [placeText, inPlaceLimit, short, if_false] at before bytes below ⊢
    exact ⟨_,
      readText_of_long small (by omega) bytes (by omega) before lies.above below lies.behind,
      Nat.le_refl _⟩

section

variable {Item : Type} {place : Item → Nat → Placed} {size : Nat}
variable (length : ∀ item position here, ((place item position).inPlace here).length = size)

include length

theorem length_layItems (items : List Item) (position here : Nat) :
    (layItems size (placeItems place items position).2 here).length = items.length * size := by
  induction items generalizing position here with
  | nil => simp [placeItems, layItems]
  | cons item rest ih =>
    simp only [placeItems, layItems, List.length_append, length, ih, List.length_cons]
    rw [Nat.succ_mul]
    omega

theorem readItems_placeItems {buffer : Array UInt8} {read : Nat → Nat → Nat → Option (Item × Nat)}
    (back : ReadsBack buffer place read) {items : List Item} {position here floor ceiling : Nat}
    (before : Holds buffer position (placeItems place items position).1)
    (inPlace : Holds buffer here (layItems size (placeItems place items position).2 here))
    (above : floor ≤ position)
    (below : position + (placeItems place items position).1.length ≤ ceiling)
    (behind : ceiling ≤ here) :
    readItems (fun here floor => read here floor ceiling) size items.length here floor =
      some items := by
  -- What an item points to ends where that of the next begins, so each read starts from the floor
  -- that the one before has left.
  induction items generalizing position here floor with
  | nil => rfl
  | cons item rest ih =>
    simp only [placeItems, layItems, holds_append, List.length_append, length]
      at before inPlace below
    have first : (place item position).Lies buffer position here floor ceiling :=
      ⟨before.1, inPlace.1, above, by omega, behind⟩
    obtain ⟨next, found, upTo⟩ := back first
    have others := ih before.2 inPlace.2 upTo (by omega) (by omega)
    simp only [List.length_cons, readItems, found, others]

theorem readList_placeList {buffer : Array UInt8} (small : buffer.size < 2147483648)
    {read : Nat → Nat → Nat → Option (Item × Nat)} {alignment : Nat}
    (back : ReadsBack buffer place read) (room : 0 < size) (positive : 0 < alignment) :
    ReadsBack buffer (placeList place size alignment) (readList read size alignment buffer) := by
  intro items position here floor ceiling lies
  have inside := lies.inPlace.end_le (by rw [length_placeList]; decide)
  have bytes := lies.inPlace.window (length_placeList place size alignment items position here)
  have before := lies.before
  have below := lies.below
  have behind := lies.behind
  rw [length_placeList] at inside
  simp only [placeList, holds_append, List.length_append, Bytes.length_zeros,
    length_layItems length] at before bytes below ⊢
  have aligned := alignUp_mod (position + (placeItems place items position).1.length) alignment
  have padded := le_alignUp (position + (placeItems place items position).1.length) positive
  generalize alignUp (position + (placeItems place items position).1.length) alignment = start at *
  obtain ⟨⟨pointed, -⟩, block⟩ := before
  have at_start : position + ((placeItems place items position).1.length +
      (start - (position + (placeItems place items position).1.length))) = start := by
    omega
  rw [at_start] at block
  have fits : start + items.length * size ≤ ceiling := by omega
  -- An item takes room, so there are no more items than the buffer has bytes.
  have count : items.length ≤ items.length * size := Nat.le_mul_of_pos_right _ room
  have target : follow? here ((window buffer here 8).take 4) = some start := by
    rw [bytes, List.take_left' (length_distance here start)]
    exact follow?_distance (by omega) (by omega)
  have number : Bytes.toNat ((window buffer here 8).drop 4) = items.length := by
    rw [bytes, List.drop_left' (length_distance here start)]
    exact Bytes.toNat_littleEndian_of_lt (by omega)
  have range : InRange floor ceiling start (items.length * size) :=
    ⟨by have := lies.above; omega, fits⟩
  have found := readItems_placeItems length back pointed block lies.above padded (Nat.le_refl start)
  refine ⟨start + items.length * size, ?_, by omega⟩
  simp [readList, target, number, aligned, range, found]

end

theorem character?_toNat (character : Char) : character? character.toNat = some character := by
  have valid : character.toNat.isValidChar := character.valid
  rw [character?, dif_pos valid]
  rfl

section

variable {buffer : Array UInt8}

theorem window_of_flag {flag : Bool} {here : Nat} (held : Holds buffer here [cond flag 1 0]) :
    Bytes.toNat (window buffer here 1) = cond flag 1 0 := by
  have length : [cond flag (1 : UInt8) 0].length = 1 := rfl
  rw [held.window length]
  cases flag <;> rfl

mutual

theorem Schema.read_place (small : buffer.size < 2147483648) :
    (schema : Schema) → schema.isArchivable = true →
      ReadsBack buffer schema.place (schema.read buffer)
  | .word width, _ => by
    intro word position here floor ceiling lies
    have inPlace : Holds buffer here (Bytes.littleEndian width.bytes (width.value word)) :=
      lies.inPlace
    have bytes := inPlace.window (Bytes.length_littleEndian width.bytes (width.value word))
    refine ⟨floor, ?_, lies.above⟩
    rw [Schema.read, bytes]
    exact congrArg (fun word => some (word, floor)) (width.wordOf_littleEndian word)
  | .flag, _ => by
    intro flag position here floor ceiling lies
    have number := window_of_flag lies.inPlace
    refine ⟨floor, ?_, lies.above⟩
    cases flag <;> simp [Schema.read, number]
  | .character, _ => by
    intro character position here floor ceiling lies
    have inPlace : Holds buffer here (Bytes.littleEndian 4 (Char.toNat character)) := lies.inPlace
    have bytes := inPlace.window (Bytes.length_littleEndian 4 (Char.toNat character))
    have number :
        Bytes.toNat (Bytes.littleEndian 4 (Char.toNat character)) = Char.toNat character :=
      Bytes.toNat_littleEndian_of_lt character.val.toNat_lt
    refine ⟨floor, ?_, lies.above⟩
    rw [Schema.read, bytes, number]
    exact congrArg (Option.map fun character => (character, floor)) (character?_toNat character)
  | .text, _ => readText_placeText small
  | .list item, archivable => by
    simp only [Schema.isArchivable, Bool.and_eq_true, decide_eq_true_eq] at archivable
    exact readList_placeList item.length_inPlace small (item.read_place small archivable.2)
      archivable.1 item.alignment_pos
  | .record fields, archivable => by
    intro values position here floor ceiling lies
    have inPlace := lies.inPlace
    simp only [Schema.place, holds_append] at inPlace
    exact fields.read_place small archivable values lies.before inPlace.1 lies.above lies.below
      lies.behind
  | .choice variants, archivable => by
    intro chosen position here floor ceiling lies
    simp only [Schema.isArchivable, Bool.and_eq_true, decide_eq_true_eq] at archivable
    have inPlace := lies.inPlace
    simp only [Schema.place, holds_append] at inPlace
    -- The byte in front is the place of the variant among the others, of which there are few.
    obtain ⟨index, rest, few, tagged, found⟩ := variants.read_place small archivable.2 chosen
      ⟨lies.before, inPlace.1, lies.above, lies.below, lies.behind⟩
    have front : Holds buffer here ([UInt8.ofNat (0 + index)] ++ rest) := by
      rw [List.singleton_append, ← tagged]
      exact inPlace.1
    have number : Bytes.toNat (window buffer here 1) = index := by
      have length : [UInt8.ofNat (0 + index)].length = 1 := rfl
      rw [(holds_append.mp front).1.window length]
      simp only [Bytes.toNat, UInt8.toNat_ofNat']
      omega
    simp only [Schema.read, number]
    exact found

theorem Fields.read_place (small : buffer.size < 2147483648) :
    (fields : Fields) → fields.isArchivable = true → (values : fields.Values) →
      {offset position here floor ceiling : Nat} →
      Holds buffer position (fields.place values offset position).before →
      Holds buffer (here + offset) ((fields.place values offset position).inPlace here) →
      floor ≤ position → position + (fields.place values offset position).before.length ≤ ceiling →
      ceiling ≤ here →
        FindsBefore (position + (fields.place values offset position).before.length) values
          (fields.read buffer here offset floor ceiling)
  | .nil, _, _, _, _, _, _, _, _, _, above, _, _ => ⟨_, rfl, above⟩
  | .cons head tail, archivable, (value, values), offset, position, here, floor, ceiling, before,
      inPlace, above, below, behind => by
    simp only [Fields.isArchivable, Bool.and_eq_true] at archivable
    have aligned := le_alignUp offset head.alignment_pos
    simp only [Fields.place, holds_append, List.length_append, Bytes.length_zeros,
      head.length_inPlace] at before inPlace below ⊢
    have at_head : here + offset + (alignUp offset head.alignment - offset) =
        here + alignUp offset head.alignment := by
      omega
    have at_tail : here + offset + (alignUp offset head.alignment - offset + head.size) =
        here + (alignUp offset head.alignment + head.size) := by
      omega
    rw [at_head, at_tail] at inPlace
    have first : (head.place value position).Lies buffer position
        (here + alignUp offset head.alignment) floor ceiling :=
      ⟨before.1, inPlace.1.2, above, by omega, by omega⟩
    obtain ⟨next, found, upTo⟩ := head.read_place small archivable.1 first
    obtain ⟨last, others, finish⟩ :=
      tail.read_place small archivable.2 values before.2 inPlace.2 upTo
      (by omega) behind
    exact ⟨last, by simp only [Fields.read, found, others], by omega⟩

theorem Variants.read_place (small : buffer.size < 2147483648) :
    (variants : Variants) → variants.isArchivable = true → (chosen : variants.Chosen) →
      {tag position here floor ceiling : Nat} →
      (variants.place chosen tag position).Lies buffer position here floor ceiling →
        ∃ index rest, index < variants.count ∧
          (variants.place chosen tag position).inPlace here = UInt8.ofNat (tag + index) :: rest ∧
          FindsBefore (position + (variants.place chosen tag position).before.length) chosen
            (variants.read buffer index here floor ceiling)
  | .cons head tail, archivable, .inl values, tag, position, here, floor, ceiling, lies => by
    simp only [Variants.isArchivable, Bool.and_eq_true] at archivable
    have inPlace : Holds buffer here
        ([UInt8.ofNat tag] ++ (head.place values 1 position).inPlace here) := lies.inPlace
    obtain ⟨next, found, upTo⟩ := head.read_place small archivable.1 values lies.before
      (holds_append.mp inPlace).2 lies.above lies.below lies.behind
    exact ⟨0, _, by simp [Variants.count], rfl, next, by simp only [Variants.read, found], upTo⟩
  | .cons head tail, archivable, .inr chosen, tag, position, here, floor, ceiling, lies => by
    simp only [Variants.isArchivable, Bool.and_eq_true] at archivable
    have later : (tail.place chosen (tag + 1) position).Lies buffer position here floor ceiling :=
      ⟨lies.before, lies.inPlace, lies.above, lies.below, lies.behind⟩
    obtain ⟨index, rest, few, tagged, next, found, upTo⟩ :=
      tail.read_place small archivable.2 chosen later
    refine ⟨index + 1, rest, ?_, ?_, next, by simp only [Variants.read, found], upTo⟩
    · simpa [Variants.count] using few
    · simp only [Variants.place, tagged, Nat.add_assoc, Nat.add_comm 1]

end

end

theorem Schema.readRoot_write {schema : Schema} (archivable : schema.isArchivable = true)
    {value : schema.Value} (small : (schema.write value).length < 2147483648) :
    schema.readRoot (schema.write value) = some value := by
  have padded := le_alignUp (schema.place value 0).before.length schema.alignment_pos
  have aligned := alignUp_mod (schema.place value 0).before.length schema.alignment
  have parts : schema.write value = (schema.place value 0).before ++
      Bytes.zeros (alignUp (schema.place value 0).before.length schema.alignment -
        (schema.place value 0).before.length) ++
      (schema.place value 0).inPlace
        (alignUp (schema.place value 0).before.length schema.alignment) := rfl
  generalize alignUp (schema.place value 0).before.length schema.alignment = start at *
  have length : (schema.write value).length = start + schema.size := by
    rw [parts]
    simp only [List.length_append, Bytes.length_zeros, schema.length_inPlace]
    omega
  -- The root ends the buffer, and all it points to lies before its padding.
  have whole : Holds (schema.write value).toArray 0 (schema.write value) := by
    simp [Holds]
  rw [parts, holds_append, holds_append, ← parts] at whole
  obtain ⟨⟨before, -⟩, inPlace⟩ := whole
  have at_start : 0 + ((schema.place value 0).before ++
      Bytes.zeros (start - (schema.place value 0).before.length)).length = start := by
    simp only [List.length_append, Bytes.length_zeros]
    omega
  rw [at_start] at inPlace
  have lies : (schema.place value 0).Lies (schema.write value).toArray 0 start 0 start :=
    ⟨before, inPlace, Nat.le_refl 0, by omega, Nat.le_refl start⟩
  obtain ⟨floor, found, -⟩ := schema.read_place (by simpa using small) archivable lies
  simp [Schema.readRoot, length, aligned, found]

end ClusterCoordination
