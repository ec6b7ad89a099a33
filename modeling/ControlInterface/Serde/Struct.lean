import ControlInterface.Serde.Data
import Mathlib.Logic.Equiv.Defs

/-!
# Derived structs

`#[derive(Serialize, Deserialize)]` of a struct, as an interpretation of its list
of fields with their attributes.  A field list is described once for each
direction; when both come from the same struct the description of each field
carries the proof that its two halves agree, and the round trip of the struct
follows for every field list at once.
-/

namespace Serde

/-- The member of an object under a key, or the element of a sequence at the position
of the key. -/
def Json.supplied (declared : List String) (value : Json) (key : String) : Option Json :=
  match value.view with
  | .object map => map.get? key
  | .array elements => elements[declared.idxOf key]?
  | _ => none

theorem Json.supplied_object (declared : List String) (map : JsonMap) :
    Json.supplied declared (.object map) = map.get? := by
  funext key
  simp only [Json.supplied, Json.view_object]

theorem Json.supplied_array (declared : List String) (elements : List Json) :
    Json.supplied declared (.array elements) = fun key => elements[declared.idxOf key]? := rfl

/-! ## Field lists -/

/-- A value for each of the given types. -/
@[reducible] def Tuple : List Type → Type
  | [] => Unit
  | type :: types => type × Tuple types

/-- One description for each field of a struct, in declaration order. -/
inductive Fields (F : Type → Type) : List Type → Type 1 where
  | nil : Fields F []
  | cons {type : Type} {types : List Type} :
      F type → Fields F types → Fields F (type :: types)

/-- How a field is written. -/
structure SerField (α : Type) where
  name : String
  toJson : α → Json
  /-- `skip_serializing_if` -/
  skip : α → Bool := fun _ => false

/-- How a field is read. -/
structure DeField (α : Type) where
  name : String
  read : Source → Json → Except DeError α
  /-- The value of a field whose key is missing, if that is not an error. -/
  absent : Option α
  /-- The value of a field past the end of a sequence, if that is not an error. -/
  beyond : Option α

/-- The value of a field, from the member under its name. -/
def DeField.take {α : Type} (field : DeField α) (source : Source) :
    Option Json → Except DeError α
  | some value => field.read source value
  | none =>
      match field.absent with
      | some value => .ok value
      | none => .error (.missingField field.name)

/-- What is supplied for a field reads as the value; without that, the value stands for a
missing key or for the end of a sequence. -/
def DeField.Fills {α : Type} (field : DeField α) (source : Source) :
    Option Json → α → Prop
  | some given, value => field.read source given = .ok value
  | none, value => field.absent = some value ∨ field.beyond = some value

theorem DeField.Fills.read {α : Type} {field : DeField α} {source : Source}
    {supply : Option Json} {value : α} (fills : field.Fills source supply value) {given : Json}
    (supplied : supply = some given) : field.read source given = .ok value := by
  subst supplied
  exact fills

/-- Something is supplied for a field that nothing stands for. -/
theorem DeField.Fills.exists_given {α : Type} {field : DeField α} {source : Source}
    {supply : Option Json} {value : α} (fills : field.Fills source supply value)
    (absent : field.absent = none) (beyond : field.beyond = none) :
    ∃ given, supply = some given ∧ field.read source given = .ok value := by
  cases supply with
  | some given => exact ⟨given, rfl, fills⟩
  | none => simp [DeField.Fills, absent, beyond] at fills

/-- The two halves of a field are inverse: what is written is read back, and a
field is left out only when its absence reads as its value. -/
structure SerField.Agrees {α : Type} (ser : SerField α) (de : DeField α) : Prop where
  name : ser.name = de.name
  read (source : Source) (value : α) : de.read source (ser.toJson value) = .ok value
  absent (value : α) : ser.skip value = true → de.absent = some value

/-- A field of a struct that derives both traits. -/
structure Field (α : Type) where
  ser : SerField α
  de : DeField α
  agrees : ser.Agrees de

/-- What is written for a field at the value its absence means, if there is one and it is
not left out. -/
def Field.silence {α : Type} (field : Field α) : Option Json :=
  match field.de.absent with
  | some value => if field.ser.skip value then none else some (field.ser.toJson value)
  | none => none

section Attributes

variable {α : Type} {types : List Type}

/-- A field without attributes. -/
def SerField.plain (name : String) [Serialize α] : SerField α where
  name
  toJson := toValue

/-- `#[serde(skip_serializing_if = "Option::is_none")]` -/
def SerField.skipNone (name : String) [Serialize α] : SerField (Option α) where
  name
  toJson := toValue
  skip := Option.isNone

/-- A field without attributes: a missing key is an error unless the type reads
absence as a value. -/
def DeField.plain (name : String) [Deserialize α] : DeField α where
  name
  read := fromSource
  absent := Deserialize.absent
  beyond := none

/-- `#[serde(default)]` -/
def DeField.default (name : String) [Deserialize α] (value : α) : DeField α where
  name
  read := fromSource
  absent := some value
  beyond := some value

/-- `#[serde(deserialize_with = …)]` over the ordinary reader: a missing key is an
error even where absence would have a reading. -/
def DeField.required (name : String) [Deserialize α] : DeField α where
  name
  read := fromSource
  absent := none
  beyond := none

/-- A required field was supplied, and what was supplied for nothing is `null`. -/
theorem DeField.Fills.exists_of_required [Deserialize α] {name : String} {source : Source}
    {supply : Option Json} {value : Option α}
    (fills : (DeField.required name : DeField (Option α)).Fills source supply value) :
    ∃ given, supply = some given ∧ (value = none → given = .null) := by
  rcases fills.exists_given rfl rfl with ⟨given, supplied, read⟩
  refine ⟨given, supplied, fun nothing => ?_⟩
  subst nothing
  exact fromSource_option_eq_none.mp read

/-- A field that defaults to nothing holds a value when that was given and is not `null`. -/
theorem DeField.eq_some_iff_of_take_default [Deserialize α] {name : String} {source : Source}
    {supply : Option Json} {held : Option α}
    (taken : (DeField.default name none).take source supply = .ok held) {value : α} :
    held = some value ↔
      ∃ given, supply = some given ∧ given ≠ .null ∧ fromSource source given = .ok value := by
  rw [← Except.ok.injEq (ε := DeError), ← taken]
  cases supply with
  | none => simp [DeField.take, DeField.default]
  | some given =>
      by_cases null : given = .null
      · subst null
        simp [DeField.take, DeField.default, fromSource]
      · simp [DeField.take, DeField.default, fromSource_option_of_ne_null source null, map_eq_ok,
          null]

variable [Serialize α] [Deserialize α] [LawfulSerde α]

theorem SerField.Agrees.plain (name : String) :
    (SerField.plain name : SerField α).Agrees (.plain name) :=
  ⟨rfl, LawfulSerde.fromSource_toValue, nofun⟩

theorem SerField.Agrees.default (name : String) (value : α) :
    (SerField.plain name).Agrees (.default name value) :=
  ⟨rfl, LawfulSerde.fromSource_toValue, nofun⟩

theorem SerField.Agrees.required (name : String) :
    (SerField.plain name : SerField α).Agrees (.required name) :=
  ⟨rfl, LawfulSerde.fromSource_toValue, nofun⟩

theorem SerField.Agrees.skipNone [NeverNull α] (name : String) :
    (SerField.skipNone name : SerField (Option α)).Agrees (.default name none) :=
  ⟨rfl, LawfulSerde.fromSource_toValue,
    fun _ skipped => by simp_all [SerField.skipNone, DeField.default]⟩

namespace Fields

/-- A field without attributes, before the given ones. -/
def plain (name : String) (rest : Fields Field types) : Fields Field (α :: types) :=
  .cons ⟨_, _, .plain name⟩ rest

/-- A `#[serde(default)]` field, before the given ones. -/
def default (name : String) (value : α) (rest : Fields Field types) :
    Fields Field (α :: types) :=
  .cons ⟨_, _, .default name value⟩ rest

/-- A `#[serde(deserialize_with = …)]` field, before the given ones. -/
def required (name : String) (rest : Fields Field types) : Fields Field (α :: types) :=
  .cons ⟨_, _, .required name⟩ rest

/-- A `#[serde(default, skip_serializing_if = "Option::is_none")]` field, before the
given ones. -/
def skipNone [NeverNull α] (name : String) (rest : Fields Field types) :
    Fields Field (Option α :: types) :=
  .cons ⟨_, _, .skipNone name⟩ rest

end Fields

end Attributes

namespace Fields

variable {types : List Type}

/-- The writing half of a field list. -/
def ser : {types : List Type} → Fields Field types → Fields SerField types
  | _, .nil => .nil
  | _, .cons field rest => .cons field.ser rest.ser

/-- The reading half of a field list. -/
def de : {types : List Type} → Fields Field types → Fields DeField types
  | _, .nil => .nil
  | _, .cons field rest => .cons field.de rest.de

/-! ## Writing -/

/-- The keys a field list may write. -/
def written : {types : List Type} → Fields SerField types → List String
  | _, .nil => []
  | _, .cons field rest => field.name :: rest.written

/-- The members written for a tuple of field values, in declaration order. -/
def entries : {types : List Type} → Fields SerField types → Tuple types → List (String × Json)
  | _, .nil, _ => []
  | _, .cons field rest, (value, values) =>
      if field.skip value then rest.entries values
      else (field.name, field.toJson value) :: rest.entries values

/-- The member written under a key, if any. -/
def member : {types : List Type} → Fields SerField types → Tuple types → String → Option Json
  | _, .nil, _, _ => none
  | _, .cons field rest, (value, values), key =>
      if key = field.name then
        if field.skip value then none else some (field.toJson value)
      else rest.member values key

theorem member_eq_none (fields : Fields SerField types) (values : Tuple types) {key : String}
    (other : key ∉ fields.written) : fields.member values key = none := by
  induction fields with
  | nil => rfl
  | cons field rest ih =>
      simp only [written, List.mem_cons, not_or] at other
      simp [member, other.1, ih values.2 other.2]

theorem lookup_entries (fields : Fields SerField types) (distinct : fields.written.Nodup)
    (values : Tuple types) (key : String) :
    BTreeMap.lookup key (fields.entries values) = fields.member values key := by
  induction fields with
  | nil => rfl
  | cons field rest ih =>
      rcases values with ⟨value, values⟩
      rcases List.nodup_cons.mp distinct with ⟨fresh, distinct⟩
      simp only [entries, member]
      by_cases same : key = field.name
      · subst same
        split <;> simp [ih distinct, member_eq_none rest values fresh]
      · split <;> simp [ih distinct, same]

/-! ## Reading -/

/-- The keys a field list reads. -/
def declared : {types : List Type} → Fields DeField types → List String
  | _, .nil => []
  | _, .cons field rest => field.name :: rest.declared

/-- The keys whose absence is not an error. -/
def optional : {types : List Type} → Fields DeField types → List String
  | _, .nil => []
  | _, .cons field rest =>
      if field.absent.isSome then field.name :: rest.optional else rest.optional

/-- Read one member of an object, keeping only whether that succeeds. -/
def visit (source : Source) : {types : List Type} → Fields DeField types →
    String → Json → Except DeError Unit
  | _, .nil, _, _ => .ok ()
  | _, .cons field rest, key, value =>
      if key = field.name then (fun _ => ()) <$> field.read source value
      else rest.visit source key value

/-- Read every field from a map of members, in declaration order. -/
def assemble (source : Source) : {types : List Type} → Fields DeField types →
    JsonMap → Except DeError (Tuple types)
  | _, .nil, _ => .ok ()
  | _, .cons field rest, map => do
      let value ← field.take source (map.get? field.name)
      let values ← rest.assemble source map
      return (value, values)

/-- Read a struct from an object.  Members are visited in key order, those of no
field are skipped, and then the fields that had no member are filled in. -/
def fromMap (source : Source) (fields : Fields DeField types) (map : JsonMap) :
    Except DeError (Tuple types) := do
  let known := map.filterKeys fun key => decide (key ∈ fields.declared)
  known.entries.forM fun entry => fields.visit source entry.1 entry.2
  fields.assemble source known

/-- The number of elements a struct is read from, as an error message gives it. -/
def elementCount (count : Nat) : String :=
  if count = 1 then "1 element" else toString count ++ " elements"

/-- Read the fields from the elements of a sequence, in declaration order, and
return the elements that are left. -/
def fromElements (source : Source) (expecting : String) : {types : List Type} →
    Fields DeField types → Nat → List Json → Except DeError (Tuple types × List Json)
  | _, .nil, _, elements => .ok ((), elements)
  | _, .cons field rest, index, element :: elements => do
      let value ← field.read source element
      let (values, left) ← rest.fromElements source expecting (index + 1) elements
      return ((value, values), left)
  | _, .cons field rest, index, [] => do
      let value ← match field.beyond with
        | some value => .ok value
        | none => .error (.invalidLength index expecting)
      let (values, left) ← rest.fromElements source expecting (index + 1) []
      return ((value, values), left)

/-- Read a struct from a sequence, which must have no element beyond the fields. -/
def fromSeq (source : Source) (expecting : String) (fields : Fields DeField types)
    (elements : List Json) : Except DeError (Tuple types) := do
  let count := fields.declared.length
  let (values, left) ←
    fields.fromElements source (expecting ++ " with " ++ elementCount count) 0 elements
  match left, source with
  | [], _ => return values
  | _ :: _, .value => .error (.invalidLength elements.length "fewer elements in array")
  | _ :: _, .content =>
      .error (.invalidLength elements.length (elementCount count ++ " in sequence"))

/-- The reader `#[derive(Deserialize)]` gives a struct: an object or a sequence. -/
def fromStruct (source : Source) (expecting : String) (fields : Fields DeField types)
    (value : Json) : Except DeError (Tuple types) :=
  match value.view with
  | .object map => fields.fromMap source map
  | .array elements => fields.fromSeq source expecting elements
  | _ => mismatch value expecting

/-! ## What an object reads as -/

/-- Every field has the value that the member under its name, or the absence of
one, gives it. -/
def Reads (source : Source) : {types : List Type} → Fields DeField types →
    JsonMap → Tuple types → Prop
  | _, .nil, _, _ => True
  | _, .cons field rest, map, (value, values) =>
      field.take source (map.get? field.name) = .ok value ∧ rest.Reads source map values

theorem assemble_eq_ok_iff (source : Source) (fields : Fields DeField types) (map : JsonMap)
    (values : Tuple types) :
    fields.assemble source map = .ok values ↔ fields.Reads source map values := by
  induction fields with
  | nil => simp [assemble, Reads]
  | cons field rest ih =>
      rcases values with ⟨value, values⟩
      simp only [assemble, Reads, ← ih]
      simp [bind_eq_ok, pure, Except.pure]

/-- A member of a readable object passes the visit. -/
theorem visit_eq_ok {source : Source} {fields : Fields DeField types} {map : JsonMap}
    {values : Tuple types} (reads : fields.Reads source map values) {key : String} {value : Json}
    (present : map.get? key = some value) : fields.visit source key value = .ok () := by
  induction fields with
  | nil => rfl
  | cons field rest ih =>
      rcases values with ⟨first, others⟩
      simp only [visit]
      split
      next same =>
        subst same
        have taken := reads.1
        rw [present, DeField.take] at taken
        simp [taken, Functor.map, Except.map]
      next => exact ih reads.2

theorem reads_congr {source : Source} {fields : Fields DeField types} {left right : JsonMap}
    {values : Tuple types}
    (agree : ∀ key ∈ fields.declared, left.get? key = right.get? key) :
    fields.Reads source left values ↔ fields.Reads source right values := by
  induction fields with
  | nil => simp [Reads]
  | cons field rest ih =>
      simp only [declared, List.mem_cons, forall_eq_or_imp] at agree
      simp only [Reads, agree.1, ih agree.2]

/-- Reading an object depends on nothing but the members under declared keys. -/
theorem fromMap_congr {source : Source} {fields : Fields DeField types} {left right : JsonMap}
    (agree : ∀ key ∈ fields.declared, left.get? key = right.get? key) :
    fields.fromMap source left = fields.fromMap source right := by
  simp only [fromMap]
  rw [BTreeMap.filterKeys_congr fun key kept => agree key (of_decide_eq_true kept)]

theorem fromMap_eq_ok_iff (source : Source) (fields : Fields DeField types) (map : JsonMap)
    (values : Tuple types) :
    fields.fromMap source map = .ok values ↔ fields.Reads source map values := by
  have known : fields.Reads source (map.filterKeys fun key => decide (key ∈ fields.declared))
      values ↔ fields.Reads source map values :=
    reads_congr fun key declared => by simp [declared]
  rw [← known, fromMap, bind_eq_ok]
  simp only [assemble_eq_ok_iff]
  constructor
  · intro steps
    rcases steps with ⟨_, _, reads⟩
    exact reads
  · intro reads
    refine ⟨(), forM_eq_ok.mpr ?_, reads⟩
    rintro ⟨key, value⟩ member
    exact visit_eq_ok reads ((BTreeMap.mem_entries_iff _ key value).mp member)

/-! ## What a sequence reads as -/

/-- Every field has the value that the element at its position gives it, or a value that
stands for the end of the sequence, and no element is left over. -/
def ReadsSeq (source : Source) : {types : List Type} → Fields DeField types →
    List Json → Tuple types → Prop
  | _, .nil, elements, _ => elements = []
  | _, .cons field rest, element :: elements, (value, values) =>
      field.read source element = .ok value ∧ rest.ReadsSeq source elements values
  | _, .cons field rest, [], (value, values) =>
      field.beyond = some value ∧ rest.ReadsSeq source [] values

theorem fromElements_eq_ok_iff {source : Source} {expecting : String}
    {fields : Fields DeField types} {index : Nat} {elements : List Json} {values : Tuple types} :
    fields.fromElements source expecting index elements = .ok (values, []) ↔
      fields.ReadsSeq source elements values := by
  induction fields generalizing index elements with
  | nil => simp [fromElements, ReadsSeq]
  | cons field rest ih =>
      rcases values with ⟨value, values⟩
      cases elements with
      | nil =>
          cases beyond : field.beyond with
          | none => simp [fromElements, ReadsSeq, beyond]
          | some filler =>
              simp [fromElements, ReadsSeq, beyond, bind_eq_ok, ih, pure, Except.pure, and_comm]
      | cons element elements =>
          simp [fromElements, ReadsSeq, bind_eq_ok, ih, pure, Except.pure]

/-- The reader of a sequence takes nothing but its fields in order. -/
theorem fromSeq_eq_ok_iff {source : Source} {expecting : String}
    {fields : Fields DeField types} {elements : List Json} {values : Tuple types} :
    fields.fromSeq source expecting elements = .ok values ↔
      fields.ReadsSeq source elements values := by
  rw [fromSeq, bind_eq_ok, ← fromElements_eq_ok_iff]
  constructor
  · intro steps
    rcases steps with ⟨⟨others, left⟩, read, finished⟩
    cases left with
    | nil =>
        cases finished
        exact read
    | cons => cases source <;> cases finished
  · intro read
    exact ⟨_, read, rfl⟩

/-- What is expected has a say in the errors only. -/
theorem fromStruct_eq_ok_congr {source : Source} {left right : String}
    {fields : Fields DeField types} {json : Json} {values : Tuple types} :
    fields.fromStruct source left json = .ok values ↔
      fields.fromStruct source right json = .ok values := by
  cases json with
  | object map => simp only [fromStruct, Json.view_object]
  | array elements => simp only [fromStruct, Json.view_array, fromSeq_eq_ok_iff]
  | _ => simp [fromStruct, mismatch]

/-! ## What a value supplies -/

/-- Every field has the value that what is supplied for it gives it. -/
def Filled (source : Source) : {types : List Type} → Fields DeField types →
    (String → Option Json) → Tuple types → Prop
  | _, .nil, _, _ => True
  | _, .cons field rest, supply, (value, values) =>
      field.Fills source (supply field.name) value ∧ rest.Filled source supply values

theorem filled_congr {source : Source} {fields : Fields DeField types}
    {left right : String → Option Json} {values : Tuple types}
    (agree : ∀ key ∈ fields.declared, left key = right key) :
    fields.Filled source left values ↔ fields.Filled source right values := by
  induction fields with
  | nil => simp [Filled]
  | cons field rest ih =>
      simp only [declared, List.mem_cons, forall_eq_or_imp] at agree
      simp only [Filled, agree.1, ih agree.2]

theorem Reads.filled {source : Source} {fields : Fields DeField types} {map : JsonMap}
    {values : Tuple types} (reads : fields.Reads source map values) :
    fields.Filled source map.get? values := by
  induction fields with
  | nil => trivial
  | cons field rest ih =>
      rcases values with ⟨value, values⟩
      rcases reads with ⟨taken, reads⟩
      refine ⟨?_, ih reads⟩
      cases present : map.get? field.name with
      | some given =>
          rw [present] at taken
          exact taken
      | none =>
          rw [present, DeField.take] at taken
          split at taken
          next absent => exact .inl (absent.trans (congrArg some (Except.ok.inj taken)))
          next => cases taken

/-- Elements fill the fields in order, and the rest of them is left. -/
theorem filled_of_fromElements {source : Source} {expecting : String}
    {fields : Fields DeField types} (distinct : fields.declared.Nodup) {index : Nat}
    {elements left : List Json} {values : Tuple types}
    (read : fields.fromElements source expecting index elements = .ok (values, left)) :
    fields.Filled source (fun key => elements[fields.declared.idxOf key]?) values ∧
      left = elements.drop fields.declared.length := by
  induction fields generalizing index elements with
  | nil =>
      simp only [fromElements, Except.ok.injEq, Prod.mk.injEq] at read
      exact ⟨trivial, read.2.symm⟩
  | @cons _ types field rest ih =>
      rcases List.nodup_cons.mp distinct with ⟨fresh, distinct⟩
      -- the fields after the first see the elements after the first
      have shift {element : Json} {elements : List Json} {values : Tuple types}
          (filled : rest.Filled source (fun key => elements[rest.declared.idxOf key]?) values) :
          rest.Filled source
            (fun key => (element :: elements)[(field.name :: rest.declared).idxOf key]?) values :=
        (filled_congr fun key member => by
          have other : field.name ≠ key := fun same => fresh (same ▸ member)
          rw [List.idxOf_cons_ne _ other, List.getElem?_cons_succ]).mp filled
      rcases values with ⟨value, values⟩
      cases elements with
      | nil =>
          cases beyond : field.beyond with
          | none => simp [fromElements, beyond] at read
          | some filler =>
              simp only [fromElements, beyond, ok_bind, bind_eq_ok, pure, Except.pure,
                Except.ok.injEq, Prod.mk.injEq] at read
              rcases read with ⟨⟨others, left'⟩, readRest, ⟨rfl, rfl⟩, rfl⟩
              rcases ih distinct readRest with ⟨filled, rfl⟩
              exact ⟨⟨.inr beyond, by simpa using filled⟩, by simp⟩
      | cons element elements =>
          simp only [fromElements, bind_eq_ok, pure, Except.pure, Except.ok.injEq,
            Prod.mk.injEq] at read
          rcases read with ⟨first, readFirst, ⟨others, left'⟩, readRest, ⟨rfl, rfl⟩, rfl⟩
          rcases ih distinct readRest with ⟨filled, rfl⟩
          refine ⟨⟨?_, shift filled⟩, rfl⟩
          simpa [declared, DeField.Fills] using readFirst

/-- What is read of a sequence is its elements in order, and there are no more of them
than there are fields. -/
theorem filled_of_fromSeq {source : Source} {expecting : String}
    {fields : Fields DeField types} (distinct : fields.declared.Nodup) {elements : List Json}
    {values : Tuple types} (read : fields.fromSeq source expecting elements = .ok values) :
    fields.Filled source (fun key => elements[fields.declared.idxOf key]?) values ∧
      elements.length ≤ fields.declared.length := by
  simp only [fromSeq, bind_eq_ok] at read
  rcases read with ⟨⟨others, left⟩, readElements, finished⟩
  rcases filled_of_fromElements distinct readElements with ⟨filled, rfl⟩
  split at finished
  next consumed =>
    cases finished
    exact ⟨filled, List.drop_eq_nil_iff.mp consumed⟩
  all_goals cases finished

/-- What is read of a value is what the value supplies, by name or by position, and a
sequence supplies no more than there are fields. -/
theorem filled_of_fromStruct {source : Source} {expecting : String}
    {fields : Fields DeField types} (distinct : fields.declared.Nodup) {json : Json}
    {values : Tuple types} (read : fields.fromStruct source expecting json = .ok values) :
    fields.Filled source (Json.supplied fields.declared json) values ∧
      ∀ elements, json = .array elements → elements.length ≤ fields.declared.length := by
  cases json with
  | object map =>
      simp only [fromStruct, Json.view_object] at read
      refine ⟨?_, by rintro elements ⟨⟩⟩
      rw [Json.supplied_object]
      exact ((fromMap_eq_ok_iff source fields map values).mp read).filled
  | array elements =>
      simp only [fromStruct, Json.view_array] at read
      rcases filled_of_fromSeq distinct read with ⟨filled, short⟩
      refine ⟨Json.supplied_array _ elements ▸ filled, ?_⟩
      rintro _ ⟨⟩
      exact short
  | _ => simp [fromStruct, mismatch] at read

/-! ## What is written reads back -/

/-- Field by field, what one list writes the other reads. -/
inductive Agrees : {types : List Type} →
    Fields SerField types → Fields DeField types → Prop where
  | nil : Agrees .nil .nil
  | cons {type : Type} {types : List Type} {ser : SerField type} {de : DeField type}
      {sers : Fields SerField types} {des : Fields DeField types} :
      ser.Agrees de → Agrees sers des → Agrees (.cons ser sers) (.cons de des)

theorem ser_agrees_de {types : List Type} (fields : Fields Field types) :
    fields.ser.Agrees fields.de := by
  induction fields with
  | nil => exact .nil
  | cons field rest ih => exact .cons field.agrees ih

theorem Agrees.declared_eq {types : List Type} {sers : Fields SerField types}
    {des : Fields DeField types} (agrees : sers.Agrees des) : des.declared = sers.written := by
  induction agrees with
  | nil => rfl
  | cons head _ ih => simp only [declared, written, head.name, ih]

theorem optional_subset_declared {types : List Type} (fields : Fields DeField types) :
    fields.optional ⊆ fields.declared := by
  induction fields with
  | nil => exact List.Subset.refl _
  | cons field rest ih =>
      simp only [optional, declared]
      split
      · exact List.cons_subset_cons _ ih
      · exact List.subset_cons_of_subset _ ih

/-- Replace the fields under the given keys by what their absence reads as. -/
def forget (keys : List String) : {types : List Type} → Fields DeField types →
    Tuple types → Tuple types
  | _, .nil, _ => ()
  | _, .cons field rest, (value, values) =>
      (if field.name ∈ keys then field.absent.getD value else value, rest.forget keys values)

@[simp] theorem forget_nil {types : List Type} (fields : Fields DeField types)
    (values : Tuple types) : fields.forget [] values = values := by
  induction fields with
  | nil => rfl
  | cons field rest ih => simp [forget, ih]

/-- A written field is read back from its member, or from the lack of one when the
member was left out or dropped. -/
theorem take_member {α : Type} {ser : SerField α} {de : DeField α} (agrees : ser.Agrees de)
    (source : Source) (value : α) (dropped : Prop) [Decidable dropped]
    (optional : dropped → de.absent.isSome) :
    de.take source (if dropped then none
        else if ser.skip value then none else some (ser.toJson value)) =
      .ok (if dropped then de.absent.getD value else value) := by
  by_cases drop : dropped
  · rcases Option.isSome_iff_exists.mp (optional drop) with ⟨missing, absent⟩
    simp [drop, DeField.take, absent]
  · by_cases skipped : ser.skip value = true
    · simp [drop, skipped, DeField.take, agrees.absent value skipped]
    · simp [drop, skipped, DeField.take, agrees.read]

/-- An object that has the written members, except for dropped optional ones, reads
as the written values with the dropped fields forgotten. -/
theorem Agrees.reads {types : List Type} {sers : Fields SerField types}
    {des : Fields DeField types} (agrees : sers.Agrees des) (distinct : sers.written.Nodup)
    (source : Source) (values : Tuple types) (map : JsonMap) (dropped : List String)
    (optional : ∀ key ∈ dropped, key ∈ sers.written → key ∈ des.optional)
    (members : ∀ key ∈ sers.written,
      map.get? key = if key ∈ dropped then none else sers.member values key) :
    des.Reads source map (des.forget dropped values) := by
  induction agrees with
  | nil => trivial
  | @cons type types ser de sers des head tail ih =>
      rcases values with ⟨value, values⟩
      rcases List.nodup_cons.mp distinct with ⟨fresh, distinct⟩
      have freshOptional : ser.name ∉ des.optional := fun member =>
        fresh (tail.declared_eq ▸ des.optional_subset_declared member)
      refine ⟨?_, ih distinct values ?_ ?_⟩
      · have present := members ser.name List.mem_cons_self
        rw [← head.name, present]
        simp only [member, if_true]
        apply take_member head source value _
        intro drop
        have readable := optional ser.name drop List.mem_cons_self
        simp only [Fields.optional] at readable
        split at readable
        next absent => exact absent
        next => exact absurd readable freshOptional
      · intro key drop written
        have readable := optional key drop (List.mem_cons_of_mem _ written)
        simp only [Fields.optional] at readable
        split at readable
        · refine (List.mem_cons.mp readable).resolve_left fun same => fresh ?_
          exact head.name ▸ same ▸ written
        · exact readable
      · intro key written
        have other : key ≠ ser.name := fun same => fresh (same ▸ written)
        have present := members key (List.mem_cons_of_mem _ written)
        simpa only [member, if_neg other] using present

theorem Agrees.fromMap_members {types : List Type} {sers : Fields SerField types}
    {des : Fields DeField types} (agrees : sers.Agrees des) (distinct : sers.written.Nodup)
    (source : Source) (values : Tuple types) (map : JsonMap) (dropped : List String)
    (optional : ∀ key ∈ dropped, key ∈ des.declared → key ∈ des.optional)
    (members : ∀ key ∈ des.declared,
      map.get? key = if key ∈ dropped then none else sers.member values key) :
    des.fromMap source map = .ok (des.forget dropped values) := by
  rw [agrees.declared_eq] at optional members
  exact (fromMap_eq_ok_iff source des map _).mpr
    (agrees.reads distinct source values map dropped optional members)

/-! ## What a forgotten field is written as -/

/-- What is written under a key for a field at the value its absence means. -/
def silence : {types : List Type} → Fields Field types → String → Option Json
  | _, .nil, _ => none
  | _, .cons field rest, key => if key = field.ser.name then field.silence else rest.silence key

/-- Fields whose absence means a value that is left out or written as `null`. -/
def quiet : {types : List Type} → Fields Field types → Bool
  | _, .nil => true
  | _, .cons field rest => field.silence.all Json.isNull && rest.quiet

theorem silence_of_quiet {types : List Type} {fields : Fields Field types}
    (quiet : fields.quiet = true) (key : String) :
    ∀ written ∈ fields.silence key, written = .null := by
  induction fields with
  | nil => simp [silence]
  | cons field rest ih =>
      rcases Bool.and_eq_true_iff.mp quiet with ⟨first, others⟩
      simp only [silence]
      split
      next =>
        intro written found
        rw [found, Option.all_some] at first
        exact Json.isNull_iff.mp first
      next => exact ih others

/-- Forgetting fields changes what is written under their keys, and nothing else. -/
theorem member_forget {types : List Type} {fields : Fields Field types}
    (distinct : fields.ser.written.Nodup) (dropped : List String) (values : Tuple types)
    (key : String) :
    fields.ser.member (fields.de.forget dropped values) key =
      if key ∈ dropped ∧ key ∈ fields.de.optional then fields.silence key
      else fields.ser.member values key := by
  induction fields with
  | nil => simp [optional, de, ser, member]
  | cons field rest ih =>
      rcases values with ⟨value, values⟩
      rcases List.nodup_cons.mp distinct with ⟨fresh, distinct⟩
      have name : field.ser.name = field.de.name := field.agrees.name
      have freshOptional : field.de.name ∉ rest.de.optional := fun member =>
        fresh (name ▸ rest.ser_agrees_de.declared_eq ▸
          rest.de.optional_subset_declared member)
      simp only [ser, de, forget, member, silence, Fields.optional, ih distinct]
      by_cases same : key = field.ser.name
      · subst same
        rw [name]
        cases absent : field.de.absent with
        | none => simp [freshOptional]
        | some value =>
            by_cases drop : field.de.name ∈ dropped <;> simp [drop, Field.silence, absent]
      · have other : key ≠ field.de.name := name ▸ same
        cases field.de.absent <;> simp [same, other]

end Fields

/-! ## Structs -/

/-- `#[derive(Serialize)]` of a struct. -/
class SerStruct (S : Type) where
  types : List Type
  fields : Fields SerField types
  toTuple : S → Tuple types
  distinct : fields.written.Nodup := by decide

/-- `#[derive(Deserialize)]` of a struct. -/
class DeStruct (S : Type) where
  name : String
  types : List Type
  fields : Fields DeField types
  ofTuple : Tuple types → S

/-- `#[derive(Serialize, Deserialize)]` of a struct. -/
class DeriveStruct (S : Type) where
  name : String
  types : List Type
  fields : Fields Field types
  equiv : S ≃ Tuple types
  distinctKeys : decide fields.ser.written.Nodup = true := by exact Eq.refl true

theorem DeriveStruct.distinct {S : Type} [DeriveStruct S] :
    (fields (S := S)).ser.written.Nodup :=
  of_decide_eq_true distinctKeys

instance {S : Type} [DeriveStruct S] : SerStruct S where
  types := DeriveStruct.types S
  fields := (DeriveStruct.fields (S := S)).ser
  toTuple := DeriveStruct.equiv (S := S)
  distinct := DeriveStruct.distinct

instance {S : Type} [DeriveStruct S] : DeStruct S where
  name := DeriveStruct.name S
  types := DeriveStruct.types S
  fields := (DeriveStruct.fields (S := S)).de
  ofTuple := (DeriveStruct.equiv (S := S)).symm

/-- The members a struct is written with. -/
def SerStruct.members {S : Type} [SerStruct S] (value : S) : JsonMap :=
  .ofList (SerStruct.fields.entries (SerStruct.toTuple value))

instance {S : Type} [SerStruct S] : Serialize S where
  toValue value := .object (SerStruct.members value)

instance {S : Type} [DeStruct S] : Deserialize S where
  fromSource source value :=
    DeStruct.ofTuple <$> DeStruct.fields.fromStruct source ("struct " ++ DeStruct.name S) value

instance {S : Type} [SerStruct S] : NeverNull S := ⟨fun _ => nofun⟩

theorem SerStruct.get?_members {S : Type} [SerStruct S] (value : S) (key : String) :
    (SerStruct.members value).get? key =
      SerStruct.fields.member (SerStruct.toTuple value) key := by
  rw [SerStruct.members, BTreeMap.get?_ofList, Fields.lookup_entries _ SerStruct.distinct]

theorem fromSource_object {S : Type} [DeStruct S] (source : Source) (map : JsonMap) :
    fromSource source (.object map) =
      (DeStruct.ofTuple <$> DeStruct.fields.fromMap source map : Except DeError S) := by
  simp [fromSource, Fields.fromStruct]

/-- What is read of a value is what the value supplies. -/
theorem DeriveStruct.exists_filled {S : Type} [DeriveStruct S] {source : Source} {json : Json}
    {value : S} (read : fromSource source json = .ok value) :
    ∃ raw, (DeStruct.fields (S := S)).Filled source
        (Json.supplied (DeStruct.fields (S := S)).declared json) raw ∧
      (∀ elements, json = .array elements →
        elements.length ≤ (DeStruct.fields (S := S)).declared.length) ∧
      DeStruct.ofTuple raw = value := by
  rcases map_eq_ok.mp read with ⟨raw, readRaw, built⟩
  have agrees := (DeriveStruct.fields (S := S)).ser_agrees_de
  have distinctKeys : (DeStruct.fields (S := S)).declared.Nodup :=
    agrees.declared_eq ▸ DeriveStruct.distinct
  rcases Fields.filled_of_fromStruct distinctKeys readRaw with ⟨filled, short⟩
  exact ⟨raw, filled, short, built⟩

/-- What is read of an object is what its members are. -/
theorem DeriveStruct.filled_of_object {S : Type} [DeriveStruct S] {map : JsonMap} {value : S}
    (read : fromValue (.object map) = .ok value) :
    ∃ raw, (DeStruct.fields (S := S)).Filled .value map.get? raw ∧
      DeStruct.ofTuple raw = value := by
  rcases DeriveStruct.exists_filled read with ⟨raw, filled, _, built⟩
  rw [Json.supplied_object] at filled
  exact ⟨raw, filled, built⟩

/-! ## Structs that check what they read -/

/-- A struct with a derived `Serialize` and a hand-written `Deserialize`, which reads
a private struct of the same fields and checks them. -/
class ShadowStruct (S : Type) where
  /-- The name of the private struct. -/
  name : String
  types : List Type
  ser : Fields SerField types
  de : Fields DeField types
  toTuple : S → Tuple types
  check : Tuple types → Except DeError S
  agrees : ser.Agrees de
  distinct : ser.written.Nodup := by decide

namespace ShadowStruct

variable {S : Type} [ShadowStruct S]

instance : SerStruct S where
  types := types S
  fields := ser
  toTuple := toTuple
  distinct := distinct

instance : Deserialize S where
  fromSource source value := do
    let raw ← (de (S := S)).fromStruct source ("struct " ++ name S) value
    check raw

theorem fromSource_object (source : Source) (map : JsonMap) :
    fromSource source (.object map) =
      ((de (S := S)).fromMap source map >>= check : Except DeError S) := by
  simp only [fromSource, Fields.fromStruct, Json.view_object]

/-- What is read of a written struct is what the check makes of its fields. -/
theorem fromSource_toValue (source : Source) (value : S) :
    fromSource source (toValue value) = check (toTuple value) := by
  have read : (de (S := S)).fromMap source (SerStruct.members value) = .ok (toTuple value) := by
    rw [(agrees (S := S)).fromMap_members distinct source (toTuple value) _ [] (by simp),
      Fields.forget_nil]
    intro key _
    rw [SerStruct.get?_members]
    simp only [List.not_mem_nil, if_false]
    rfl
  have object : toValue value = .object (SerStruct.members value) := rfl
  rw [object, fromSource_object, read, ok_bind]

/-- What is read has passed the check, with every field read of what was supplied. -/
theorem exists_filled {source : Source} {json : Json} {value : S}
    (read : fromSource source json = .ok value) :
    ∃ raw, (de (S := S)).Filled source (Json.supplied (de (S := S)).declared json) raw ∧
      check raw = .ok value := by
  rcases bind_eq_ok.mp read with ⟨raw, readRaw, checked⟩
  have distinctKeys : (de (S := S)).declared.Nodup := (agrees (S := S)).declared_eq ▸ distinct
  exact ⟨raw, (Fields.filled_of_fromStruct distinctKeys readRaw).1, checked⟩

end ShadowStruct

/-! ## Open objects -/

/-- A type written as an object whose reader is open to change: it skips members it
does not declare, and reads a value back even when optional members are missing,
with those fields at what their absence means. -/
class OpenObject (R : Type) [Serialize R] [Deserialize R] where
  /-- Every key the reader looks at, tags included. -/
  declared : List String
  members : R → JsonMap
  /-- The keys that may be missing from the object of a value. -/
  optional : R → List String
  /-- The value with the fields under the given keys at what absence means. -/
  forget : List String → R → R
  toValue_eq (value : R) : toValue value = .object (members value)
  get?_undeclared (value : R) {key : String} :
    key ∉ declared → (members value).get? key = none
  /-- What is written under an optional key once it is forgotten. -/
  silence : R → String → Option Json
  /-- Whether that is always nothing or `null`. -/
  quiet : Bool
  forget_nil (value : R) : forget [] value = value
  get?_forget (dropped : List String) (value : R) (key : String) :
    (members (forget dropped value)).get? key =
      if key ∈ dropped ∧ key ∈ optional value then silence value key
      else (members value).get? key
  silence_of_quiet (quiet : quiet = true) (value : R) (key : String) :
    ∀ written ∈ silence value key, written = .null
  fromSource_members (source : Source) (value : R) (map : JsonMap) (dropped : List String) :
    (∀ key ∈ dropped, key ∈ declared → key ∈ optional value) →
    (∀ key ∈ declared,
      map.get? key = if key ∈ dropped then none else (members value).get? key) →
    fromSource source (.object map) = .ok (forget dropped value)

namespace OpenObject

variable {R : Type} [Serialize R] [Deserialize R] [OpenObject R]

instance : LawfulSerde R where
  fromSource_toValue source value := by
    rw [toValue_eq, fromSource_members source value (members value) []]
    · rw [forget_nil]
    · simp
    · simp

instance : NeverNull R where
  toValue_ne_null value := by
    rw [toValue_eq]
    exact nofun

end OpenObject

instance {S : Type} [DeriveStruct S] : OpenObject S where
  declared := (DeStruct.fields (S := S)).declared
  members := SerStruct.members
  optional _ := (DeStruct.fields (S := S)).optional
  forget dropped value :=
    DeStruct.ofTuple (DeStruct.fields.forget dropped (SerStruct.toTuple value))
  toValue_eq _ := rfl
  get?_undeclared value key undeclared := by
    rw [SerStruct.get?_members, Fields.member_eq_none]
    exact (DeriveStruct.fields (S := S)).ser_agrees_de.declared_eq ▸ undeclared
  silence _ := (DeriveStruct.fields (S := S)).silence
  quiet := (DeriveStruct.fields (S := S)).quiet
  forget_nil value := by
    rw [Fields.forget_nil]
    exact DeriveStruct.equiv.symm_apply_apply value
  get?_forget dropped value key := by
    rw [SerStruct.get?_members, SerStruct.get?_members]
    have rebuilt : SerStruct.toTuple (DeStruct.ofTuple
        (DeStruct.fields.forget dropped (SerStruct.toTuple value)) : S) =
          (DeStruct.fields (S := S)).forget dropped (SerStruct.toTuple value) :=
      DeriveStruct.equiv.apply_symm_apply _
    rw [rebuilt]
    exact Fields.member_forget DeriveStruct.distinct dropped _ key
  silence_of_quiet quiet _ key := Fields.silence_of_quiet quiet key
  fromSource_members source value map dropped optional members := by
    have agrees := (DeriveStruct.fields (S := S)).ser_agrees_de
    have read : (DeStruct.fields (S := S)).fromMap source map =
        .ok (DeStruct.fields.forget dropped (SerStruct.toTuple value)) :=
      agrees.fromMap_members DeriveStruct.distinct source (SerStruct.toTuple value) map dropped
        optional fun key declared => (members key declared).trans
          (by rw [SerStruct.get?_members]; rfl)
    rw [fromSource_object, read]
    rfl

end Serde
