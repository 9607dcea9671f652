import ClusterCoordination.Archive.Schema
/-!
# Archived forms of types

A form says how the values of a type are archived: by which schema, and how they correspond to the
values of the schema. Forms are put together the way types are.
-/

set_option autoImplicit false

namespace ClusterCoordination

structure Form (α : Type) where
  schema : Schema
  toValue : α → schema.Value
  ofValue : schema.Value → α
  ofValue_toValue : ∀ value, ofValue (toValue value) = value

structure FieldsForm (α : Type) where
  fields : Fields
  toValues : α → fields.Values
  ofValues : fields.Values → α
  ofValues_toValues : ∀ value, ofValues (toValues value) = value

structure VariantsForm (α : Type) where
  variants : Variants
  toChosen : α → variants.Chosen
  ofChosen : variants.Chosen → α
  ofChosen_toChosen : ∀ value, ofChosen (toChosen value) = value

namespace FieldsForm

def nil : FieldsForm Unit := ⟨.nil, id, id, fun _ => rfl⟩

def cons {α β : Type} (head : Form α) (tail : FieldsForm β) : FieldsForm (α × β) where
  fields := .cons head.schema tail.fields
  toValues := fun (value, values) => (head.toValue value, tail.toValues values)
  ofValues := fun (value, values) => (head.ofValue value, tail.ofValues values)
  ofValues_toValues := fun (value, values) => by
    simp [head.ofValue_toValue, tail.ofValues_toValues]

def map {α β : Type} (form : FieldsForm α) (toOld : β → α) (toNew : α → β)
    (back : ∀ value, toNew (toOld value) = value) : FieldsForm β where
  fields := form.fields
  toValues := fun value => form.toValues (toOld value)
  ofValues := fun values => toNew (form.ofValues values)
  ofValues_toValues := fun value => by simp [form.ofValues_toValues, back]

def single {α : Type} (form : Form α) : FieldsForm α :=
  (cons form nil).map (fun value => (value, ())) (fun (value, _) => value) (fun _ => rfl)

end FieldsForm

namespace VariantsForm

def nil : VariantsForm Empty := ⟨.nil, id, id, fun _ => rfl⟩

def cons {α β : Type} (head : FieldsForm α) (tail : VariantsForm β) : VariantsForm (α ⊕ β) where
  variants := .cons head.fields tail.variants
  toChosen
    | .inl value => .inl (head.toValues value)
    | .inr value => .inr (tail.toChosen value)
  ofChosen
    | .inl values => .inl (head.ofValues values)
    | .inr chosen => .inr (tail.ofChosen chosen)
  ofChosen_toChosen
    | .inl value => by simp [head.ofValues_toValues]
    | .inr value => by simp [tail.ofChosen_toChosen]

def map {α β : Type} (form : VariantsForm α) (toOld : β → α) (toNew : α → β)
    (back : ∀ value, toNew (toOld value) = value) : VariantsForm β where
  variants := form.variants
  toChosen := fun value => form.toChosen (toOld value)
  ofChosen := fun chosen => toNew (form.ofChosen chosen)
  ofChosen_toChosen := fun value => by simp [form.ofChosen_toChosen, back]

def numbered : (count : Nat) → VariantsForm (Fin count)
  | 0 => nil.map Fin.elim0 Empty.elim (fun index => index.elim0)
  | count + 1 =>
    (cons .nil (numbered count)).map
      (Fin.cases (.inl ()) .inr)
      (fun
        | .inl () => 0
        | .inr index => index.succ)
      (Fin.cases rfl (fun _ => rfl))

end VariantsForm

namespace Form

def map {α β : Type} (form : Form α) (toOld : β → α) (toNew : α → β)
    (back : ∀ value, toNew (toOld value) = value) : Form β where
  schema := form.schema
  toValue := fun value => form.toValue (toOld value)
  ofValue := fun value => toNew (form.ofValue value)
  ofValue_toValue := fun value => by simp [form.ofValue_toValue, back]

/-- The values of the schema themselves. -/
def plain (schema : Schema) : Form schema.Value := ⟨schema, id, id, fun _ => rfl⟩

def u8 : Form UInt8 := ⟨.word .one, id, id, fun _ => rfl⟩
def u16 : Form UInt16 := ⟨.word .two, id, id, fun _ => rfl⟩
def u32 : Form UInt32 := ⟨.word .four, id, id, fun _ => rfl⟩
def u64 : Form UInt64 := ⟨.word .eight, id, id, fun _ => rfl⟩

def i8 : Form Int8 := u8.map Int8.toUInt8 UInt8.toInt8 (fun _ => rfl)
def i16 : Form Int16 := u16.map Int16.toUInt16 UInt16.toInt16 (fun _ => rfl)
def i32 : Form Int32 := u32.map Int32.toUInt32 UInt32.toInt32 (fun _ => rfl)
def i64 : Form Int64 := u64.map Int64.toUInt64 UInt64.toInt64 (fun _ => rfl)

def flag : Form Bool := ⟨.flag, id, id, fun _ => rfl⟩
def character : Form Char := ⟨.character, id, id, fun _ => rfl⟩
def text : Form String := ⟨.text, id, id, fun _ => rfl⟩

def record {α : Type} (form : FieldsForm α) : Form α :=
  ⟨.record form.fields, form.toValues, form.ofValues, form.ofValues_toValues⟩

def choice {α : Type} (form : VariantsForm α) : Form α :=
  ⟨.choice form.variants, form.toChosen, form.ofChosen, form.ofChosen_toChosen⟩

def unit : Form Unit := record .nil

def list {α : Type} (form : Form α) : Form (List α) where
  schema := .list form.schema
  toValue := List.map form.toValue
  ofValue := List.map form.ofValue
  ofValue_toValue := fun values => by
    show List.map form.ofValue (List.map form.toValue values) = values
    simp [Function.comp_def, form.ofValue_toValue]

def option {α : Type} (form : Form α) : Form (Option α) :=
  (choice (.cons .nil (.cons (.single form) .nil))).map
    (fun
      | none => .inl ()
      | some value => .inr (.inl value))
    (fun
      | .inl () => none
      | .inr (.inl value) => some value)
    (fun
      | none => rfl
      | some _ => rfl)

def octetFields : (count : Nat) → FieldsForm (Vector UInt8 count)
  | 0 => FieldsForm.nil.map (fun _ => ()) (fun _ => #v[]) (fun _ => by simp)
  | count + 1 =>
    (FieldsForm.cons u8 (octetFields count)).map
      (fun octets => (octets.head, octets.tail.cast (by omega)))
      (fun (head, tail) => (#v[head] ++ tail).cast (by omega))
      (fun octets => by
        ext index inside
        cases index with
        | zero => simp [Vector.head]
        | succ index => simp [Nat.add_comm])

def octets (count : Nat) : Form (Vector UInt8 count) := record (octetFields count)

end Form

end ClusterCoordination
