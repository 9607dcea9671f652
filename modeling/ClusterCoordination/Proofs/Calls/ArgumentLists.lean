import Mathlib.Data.List.Forall2
import Mathlib.Data.List.Nodup
import ClusterCoordination.Calls.Arguments
import ClusterCoordination.Proofs.Archive.Payload
import ClusterCoordination.Proofs.Calls.LocationTransparency
/-!
# Lists of arguments

Arguments of any types are added one after the other. Each can be read at its own type, as the value
it was, and at no other type. Whatever is added later leaves the earlier ones as they are.
-/

set_option autoImplicit false

namespace ClusterCoordination

namespace PayloadType

def builtIn : List PayloadType :=
  [.u8, .i8, .u16, .i16, .u32, .i32, .u64, .i64, .flag, .unit, .character, .text, .bytes, .u64List,
    .textList, .bytesList, .optionalU32, .optionalText, .address, .status, .peer, .control,
    .request, .response]

/-- None of the other types has the same name. -/
def IsToldFrom (type : PayloadType) (types : List PayloadType) : Prop :=
  ∀ other ∈ types, other.tag = type.tag → other = type

theorem isToldFrom_builtIn {type : PayloadType} (known : type ∈ builtIn) :
    type.IsToldFrom builtIn := by
  have distinct : (builtIn.map tag).Nodup := by decide +kernel
  exact fun other among same => List.inj_on_of_nodup_map distinct among known same

end PayloadType

def Payload.isEncodable (payload : Payload) : Bool := payload.encode.isOk

namespace Arguments

/--
An argument is added in place, and if that fails the arguments are still there; or the arguments are
given away for longer ones, and if that fails they are lost.
-/
inductive Addition where
  | inPlace (payload : Payload)
  | exchanging (payload : Payload)

def Addition.payload : Addition → Payload
  | .inPlace payload | .exchanging payload => payload

def add (arguments : Arguments) : Addition → Except Status Arguments
  | .inPlace payload => .ok ((arguments.push payload).toOption.getD arguments)
  | .exchanging payload => arguments.push payload

def addAll (additions : List Addition) (arguments : Arguments) : Except Status Arguments :=
  additions.foldlM add arguments

/-- The arguments are these values, each under the name of its type. -/
structure Holds (arguments : Arguments) (values : List Payload) : Prop where
  tags : arguments.tags = values.map fun value => value.type.tag
  payloads : List.Forall₂ (fun bytes (value : Payload) => value.encode = .ok bytes)
    arguments.payloads values

variable {arguments : Arguments} {values : List Payload}

theorem push_of_encode {payload : Payload} {bytes : Bytes} (encoded : payload.encode = .ok bytes) :
    arguments.push payload = .ok (arguments.extend payload.type.tag bytes) := by
  rw [push, encoded]

theorem push_eq_ok {payload : Payload} {extended : Arguments}
    (pushed : arguments.push payload = .ok extended) :
    ∃ bytes, payload.encode = .ok bytes ∧ extended = arguments.extend payload.type.tag bytes := by
  cases encoded : payload.encode with
  | error status => simp [push, encoded] at pushed
  | ok bytes =>
    rw [push_of_encode encoded] at pushed
    exact ⟨bytes, rfl, (Except.ok.inj pushed).symm⟩

theorem push_isOk (arguments : Arguments) (payload : Payload) :
    (arguments.push payload).isOk = payload.isEncodable := by
  unfold push Payload.isEncodable
  cases payload.encode <;> rfl

theorem Holds.add (holds : arguments.Holds values) {addition : Addition} {after : Arguments}
    (added : arguments.add addition = .ok after) :
    after.Holds (values ++ [addition.payload].filter Payload.isEncodable) := by
  have outcome : (addition.payload.isEncodable = true ∧
        arguments.push addition.payload = .ok after) ∨
      (addition.payload.isEncodable = false ∧ after = arguments) := by
    have same := arguments.push_isOk addition.payload
    cases pushed : arguments.push addition.payload with
    | ok extended =>
      rw [pushed] at same
      refine .inl ⟨same.symm, ?_⟩
      cases addition <;> simp_all [Arguments.add, Addition.payload, Except.toOption]
    | error status =>
      rw [pushed] at same
      refine .inr ⟨same.symm, ?_⟩
      cases addition <;> simp_all [Arguments.add, Addition.payload, Except.toOption]
  rcases outcome with ⟨fits, pushed⟩ | ⟨refused, rfl⟩
  · obtain ⟨bytes, encoded, rfl⟩ := push_eq_ok pushed
    rw [List.filter_cons_of_pos fits]
    refine ⟨?_, List.rel_append holds.payloads (.cons encoded .nil)⟩
    simp [extend, holds.tags]
  · rw [List.filter_cons_of_neg (by simp [refused])]
    simpa using holds

theorem Holds.addAll (holds : arguments.Holds values) {additions : List Addition}
    {after : Arguments} (added : arguments.addAll additions = .ok after) :
    after.Holds (values ++ (additions.map Addition.payload).filter Payload.isEncodable) := by
  induction additions generalizing arguments values with
  | nil =>
    obtain rfl := Except.ok.inj added
    simpa using holds
  | cons addition rest ih =>
    cases first : arguments.add addition with
    | error status => simp [Arguments.addAll, List.foldlM_cons, first, bind, Except.bind] at added
    | ok extended =>
      have others : extended.addAll rest = .ok after := by
        simpa [Arguments.addAll, List.foldlM_cons, first, bind, Except.bind] using added
      have held := ih (holds.add first) others
      rwa [List.append_assoc, ← List.filter_append, List.singleton_append, ← List.map_cons] at held

theorem addAll_isOk (additions : List Addition) (arguments : Arguments) :
    (∃ after, arguments.addAll additions = .ok after) ↔
      ∀ payload, .exchanging payload ∈ additions → payload.isEncodable = true := by
  induction additions generalizing arguments with
  | nil => simp [addAll, pure, Except.pure]
  | cons addition rest ih =>
    have onward {extended : Arguments} (first : arguments.add addition = .ok extended) :
        arguments.addAll (addition :: rest) = extended.addAll rest := by
      simp [addAll, List.foldlM_cons, first, bind, Except.bind]
    cases addition with
    | inPlace payload =>
      rw [onward rfl, ih]
      simp
    | exchanging payload =>
      have same := arguments.push_isOk payload
      cases pushed : arguments.push payload with
      | ok extended =>
        rw [pushed] at same
        rw [onward pushed, ih]
        simp [← same, Except.isOk, Except.toBool]
      | error status =>
        rw [pushed] at same
        have lost : arguments.addAll (.exchanging payload :: rest) = .error status := by
          simp [addAll, List.foldlM_cons, add, pushed, bind, Except.bind]
        simp [lost, ← same, Except.isOk, Except.toBool]

theorem Holds.length (holds : arguments.Holds values) : arguments.length = values.length := by
  rw [Arguments.length, holds.tags, List.length_map]

theorem get_eq_error {type : PayloadType} {index : Nat}
    (other : arguments.tags[index]? ≠ some type.tag) :
    ∃ status : Status, arguments.get type index = .error status ∧
      status.code = .invalidPayload := by
  unfold get
  split
  next tag payload found _ =>
    have mistyped : tag ≠ type.tag := by
      rintro rfl
      exact other found
    rw [if_neg mistyped]
    exact ⟨_, rfl, rfl⟩
  next => exact ⟨_, rfl, rfl⟩

theorem get_of_tagged {type : PayloadType} {index : Nat} {payload : Bytes}
    (tagged : arguments.tags[index]? = some type.tag)
    (found : arguments.payloads[index]? = some payload) :
    arguments.get type index = type.decode payload := by
  simp only [get, tagged, found, if_true]

theorem Holds.get (holds : arguments.Holds values) {type : PayloadType}
    (named : type.IsToldFrom (values.map Payload.type)) {index : Nat}
    (tagged : arguments.tags[index]? = some type.tag) :
    ∃ value, values[index]? = some ⟨type, value⟩ ∧ arguments.get type index = .ok value := by
  have listed := tagged
  rw [holds.tags, List.getElem?_map, Option.map_eq_some_iff] at listed
  obtain ⟨added, found, same⟩ := listed
  have among : added.type ∈ values.map Payload.type :=
    List.mem_map_of_mem (List.mem_of_getElem? found)
  obtain ⟨original, value⟩ := added
  obtain rfl : original = type := named original among same
  obtain ⟨within, isValue⟩ := List.getElem?_eq_some_iff.mp found
  have inside : index < arguments.payloads.length := holds.payloads.length_eq ▸ within
  have encoded := List.Forall₂.get holds.payloads inside within
  rw [List.get_eq_getElem, List.get_eq_getElem, isValue] at encoded
  refine ⟨value, found, ?_⟩
  rw [get_of_tagged tagged (List.getElem?_eq_getElem inside)]
  exact PayloadType.decode_of_encode encoded

theorem expectArity_eq_ok {count : Nat} :
    arguments.expectArity count = .ok () ↔ arguments.length = count := by
  unfold expectArity
  split <;> simp_all

theorem get_extend {type : PayloadType} {index : Nat} (inside : index < arguments.length)
    (tag : String) (payload : Bytes) :
    (arguments.extend tag payload).get type index = arguments.get type index := by
  have within : index < arguments.payloads.length := arguments.aligned ▸ inside
  simp only [get, extend, List.getElem?_append_left inside, List.getElem?_append_left within,
    List.getElem?_eq_getElem inside, List.getElem?_eq_getElem within]

theorem push_keeps {payload : Payload} {extended : Arguments}
    (pushed : arguments.push payload = .ok extended) :
    extended.tags.take arguments.length = arguments.tags ∧
      extended.payloads.take arguments.length = arguments.payloads ∧
      extended.length = arguments.length + 1 ∧
      ∀ type index, index < arguments.length →
        extended.get type index = arguments.get type index := by
  obtain ⟨bytes, -, rfl⟩ := push_eq_ok pushed
  refine ⟨List.take_left, List.take_left' arguments.aligned.symm, by simp [length, extend], ?_⟩
  exact fun type index inside => get_extend inside _ bytes

theorem ofParts_eq_ok {tags : List String} {payloads : List Bytes} :
    ofParts tags payloads = .ok arguments ↔
      arguments.tags = tags ∧ arguments.payloads = payloads := by
  constructor
  · intro made
    unfold ofParts at made
    split at made
    next aligned =>
      obtain rfl := Except.ok.inj made
      exact ⟨rfl, rfl⟩
    next => cases made
  · rintro ⟨rfl, rfl⟩
    exact ofParts_parts arguments

theorem ofParts_isOk (tags : List String) (payloads : List Bytes) :
    (∃ arguments, ofParts tags payloads = .ok arguments) ↔ tags.length = payloads.length := by
  unfold ofParts
  split <;> simp_all

/--
Whatever is added, in either way, the arguments are those values that can be archived, in the order
in which they were added. Each is read back at its own type, if no other type among them has the
name.
-/
theorem additions_are_read_back (additions : List Addition) :
    ((∃ arguments, empty.addAll additions = .ok arguments) ↔
      ∀ payload, .exchanging payload ∈ additions → payload.isEncodable = true) ∧
    (∀ arguments, empty.addAll additions = .ok arguments →
      let values := (additions.map Addition.payload).filter Payload.isEncodable
      arguments.tags = values.map (fun value => value.type.tag) ∧
      List.Forall₂ (fun bytes (value : Payload) => value.encode = .ok bytes)
        arguments.payloads values ∧
      (∀ type : PayloadType, type.IsToldFrom (values.map Payload.type) → ∀ index,
        arguments.tags[index]? = some type.tag →
          ∃ value, values[index]? = some ⟨type, value⟩ ∧ arguments.get type index = .ok value) ∧
      (∀ type index, arguments.tags[index]? ≠ some type.tag →
        ∃ status : Status, arguments.get type index = .error status ∧
          status.code = .invalidPayload) ∧
      (∀ count, arguments.expectArity count = .ok () ↔ count = values.length) ∧
      ∀ payload extended, arguments.push payload = .ok extended →
        extended.tags.take arguments.length = arguments.tags ∧
          extended.payloads.take arguments.length = arguments.payloads ∧
          extended.length = arguments.length + 1 ∧
          ∀ type index, index < arguments.length →
            extended.get type index = arguments.get type index) ∧
    ∀ tags payloads,
      ((∃ arguments, ofParts tags payloads = .ok arguments) ↔ tags.length = payloads.length) ∧
      ∀ arguments, ofParts tags payloads = .ok arguments ↔
        arguments.tags = tags ∧ arguments.payloads = payloads := by
  refine ⟨addAll_isOk additions empty, ?_, fun tags payloads =>
    ⟨ofParts_isOk tags payloads, fun arguments => ofParts_eq_ok⟩⟩
  intro arguments added
  have nothing : empty.Holds [] := ⟨rfl, .nil⟩
  have holds := nothing.addAll added
  rw [List.nil_append] at holds
  refine ⟨holds.tags, holds.payloads, fun type named index => holds.get named,
    fun type index => get_eq_error, fun count => ?_, fun payload extended => push_keeps⟩
  rw [expectArity_eq_ok, holds.length, eq_comm]

/-- A number and a text: each at its own type, the text not as a number, and nothing behind them. -/
theorem number_and_text_are_read_back :
    let number : Payload := ⟨.u64, (4 : UInt64)⟩
    let text : Payload := ⟨.text, "cohort"⟩
    ∃ arguments : Arguments,
      empty.addAll [.inPlace number, .exchanging text] = .ok arguments ∧
      arguments.tags = ["u64", "alloc::string::String"] ∧
      arguments.get .u64 0 = .ok (4 : UInt64) ∧ arguments.get .text 1 = .ok "cohort" ∧
      (∃ status, arguments.get .u64 1 = .error status ∧ status.code = .invalidPayload) ∧
      (∃ status, arguments.get .text 2 = .error status ∧ status.code = .invalidPayload) ∧
      arguments.expectArity 2 = .ok () := by
  intro number text
  have fits : number.isEncodable = true ∧ text.isEncodable = true := by decide +kernel
  obtain ⟨made, additions, _⟩ :=
    additions_are_read_back [.inPlace number, .exchanging text]
  obtain ⟨arguments, added⟩ := made.mpr fun payload member => by
    obtain rfl : payload = text := by simpa using member
    exact fits.2
  obtain ⟨tags, _, read, refused, arity, _⟩ := additions arguments added
  have values : ([.inPlace number, .exchanging text].map Addition.payload).filter
      Payload.isEncodable = [number, text] := by
    simp [Addition.payload, fits]
  rw [values] at tags read arity
  have told {type : PayloadType} (known : type ∈ PayloadType.builtIn) :
      type.IsToldFrom ([number, text].map Payload.type) := by
    intro other among
    refine PayloadType.isToldFrom_builtIn known other ?_
    rcases List.mem_cons.mp among with rfl | also
    · simp [number, PayloadType.builtIn]
    · obtain rfl := List.mem_singleton.mp also
      simp [text, PayloadType.builtIn]
  obtain ⟨four, isNumber, found⟩ := read .u64 (told (by simp [PayloadType.builtIn])) 0
    (tags ▸ rfl)
  obtain ⟨name, isText, named⟩ := read .text (told (by simp [PayloadType.builtIn])) 1 (tags ▸ rfl)
  obtain rfl : (4 : UInt64) = four :=
    eq_of_heq (Payload.mk.inj (Option.some.inj isNumber)).2
  obtain rfl : "cohort" = name := eq_of_heq (Payload.mk.inj (Option.some.inj isText)).2
  have mistyped := refused .u64 1
  have missing := refused .text 2
  rw [tags] at mistyped missing
  exact ⟨arguments, added, tags, found, named, mistyped (by decide), missing (by decide),
    (arity 2).mpr rfl⟩

end Arguments

end ClusterCoordination
