import ControlInterface.Serde.Struct
import Mathlib.Data.List.Dedup

/-!
# Derived enums

`#[derive(Serialize, Deserialize)]` of an enum: the externally tagged form of an
enum whose variants carry nothing, the internally tagged form
(`#[serde(tag = …)]`), and a struct or variant that holds an internally tagged
enum in place (`#[serde(flatten)]`).
-/

namespace Serde

/-! ## Finding a value by its image -/

section Find

variable {α β : Type} [DecidableEq β] {image : α → β} {values : List α}

/-- Among values with different images, the search for the image of one of them
finds it. -/
theorem find?_image (distinct : (values.map image).Nodup) {value : α} (member : value ∈ values) :
    (values.find? fun other => image other == image value) = some value := by
  induction values with
  | nil => cases member
  | cons head rest ih =>
      rcases List.nodup_cons.mp distinct with ⟨fresh, distinct⟩
      rcases List.mem_cons.mp member with rfl | member
      · simp
      · have other : image head ≠ image value := fun same =>
          fresh (same ▸ List.mem_map_of_mem member)
        simp [other, ih distinct member]

/-- The search by image is the inverse of taking the image. -/
theorem find?_eq_some_iff (distinct : (values.map image).Nodup)
    (complete : ∀ value, value ∈ values) {wanted : β} {value : α} :
    (values.find? fun other => image other == wanted) = some value ↔ image value = wanted := by
  constructor
  · intro found
    simpa using List.find?_some found
  · intro same
    subst same
    exact find?_image distinct (complete value)

end Find

/-! ## Enums of unit variants -/

/-- An enum whose variants carry nothing, with the wire name of each of them. -/
class UnitEnum (E : Type) where
  variants : List E
  wire : E → String
  complete (value : E) : value ∈ variants := by intro value; cases value <;> decide
  distinct : (variants.map wire).Nodup := by decide

namespace UnitEnum

variable {E : Type} [UnitEnum E]

/-- The variant with the given wire name. -/
def find (name : String) : Except DeError E :=
  match (variants : List E).find? fun variant => wire variant == name with
  | some variant => .ok variant
  | none => .error (.unknownVariant name (variants.map (wire : E → String)))

/-- The payload of a unit variant spelled as a one-member object. -/
def unitPayload (source : Source) (payload : Json) : Except DeError Unit :=
  match source, payload.view with
  | _, .null => .ok ()
  | .content, .object ⟨[], _⟩ => .ok ()
  | _, _ => mismatch payload "unit"

instance : Serialize E := ⟨fun value => .string (wire value)⟩

instance : Deserialize E where
  fromSource source value :=
    match value.view with
    | .string name => find name
    | .object ⟨[(name, payload)], _⟩ => do
        let variant ← find name
        unitPayload source payload
        return variant
    | .object _ => .error (.invalidValue .map "map with a single key")
    | _ => mismatch value "string or map"

theorem find_wire (value : E) : find (wire value) = .ok value := by
  rw [find, find?_image distinct (complete value)]

instance : LawfulSerde E := ⟨fun _ value => find_wire value⟩
instance : NeverNull E := ⟨fun _ => nofun⟩

end UnitEnum

/-! ## Flattening -/

/-- A type whose members are written among those of a surrounding struct. -/
structure Flattened (E : Type) where
  declared : List String
  members : E → JsonMap
  /-- Read the members the surrounding struct did not take. -/
  read : JsonMap → Except DeError E
  get?_undeclared (value : E) {key : String} :
    key ∉ declared → (members value).get? key = none
  read_members (value : E) (map : JsonMap) :
    (∀ key ∈ declared, map.get? key = (members value).get? key) → read map = .ok value

namespace Flattened

variable {E : Type} {types : List Type}

/-- Read a struct with a flattened field: the members of its own fields, and the
flattened value from all the others.  There is no sequence form. -/
def fromMap (inner : Flattened E) (source : Source) (fields : Fields DeField types)
    (map : JsonMap) : Except DeError (E × Tuple types) := do
  let values ← fields.fromMap source map
  let value ← inner.read (map.filterKeys fun key => decide (key ∉ fields.declared))
  return (value, values)

/-- The members of a struct with a flattened field. -/
def entries (inner : Flattened E) (fields : Fields SerField types) :
    E × Tuple types → List (String × Json)
  | (value, values) => (inner.members value).entries ++ fields.entries values

theorem lookup_entries_inner (inner : Flattened E) {fields : Fields SerField types}
    (distinct : fields.written.Nodup) (value : E) (values : Tuple types) {key : String}
    (other : key ∉ fields.written) :
    BTreeMap.lookup key (inner.entries fields (value, values)) =
      (inner.members value).get? key := by
  rw [entries, BTreeMap.lookup_append, Fields.lookup_entries fields distinct,
    Fields.member_eq_none fields values other, BTreeMap.lookup_entries, Option.or_none]

theorem lookup_entries_outer (inner : Flattened E) {fields : Fields SerField types}
    (distinct : fields.written.Nodup) (value : E) (values : Tuple types) {key : String}
    (other : key ∉ inner.declared) :
    BTreeMap.lookup key (inner.entries fields (value, values)) = fields.member values key := by
  rw [entries, BTreeMap.lookup_append, Fields.lookup_entries fields distinct,
    BTreeMap.lookup_entries, inner.get?_undeclared value other, Option.none_or]

/-- What a struct with a flattened field writes is read back, also with optional
members of its own dropped. -/
theorem fromMap_members (inner : Flattened E) (source : Source) {sers : Fields SerField types}
    {des : Fields DeField types} (agrees : sers.Agrees des)
    (distinct : (sers.written ++ inner.declared).Nodup) (value : E) (values : Tuple types)
    (map : JsonMap) (dropped : List String)
    (optional : ∀ key ∈ dropped, key ∈ sers.written ++ inner.declared → key ∈ des.optional)
    (members : ∀ key ∈ sers.written ++ inner.declared, map.get? key =
      if key ∈ dropped then none else BTreeMap.lookup key (inner.entries sers (value, values))) :
    inner.fromMap source des map = .ok (value, des.forget dropped values) := by
  rcases List.nodup_append.mp distinct with ⟨own, _, apart⟩
  have outer : des.fromMap source map = .ok (des.forget dropped values) := by
    apply agrees.fromMap_members own source values map dropped
    · intro key drop declared
      rw [agrees.declared_eq] at declared
      exact optional key drop (List.mem_append_left _ declared)
    · intro key declared
      rw [agrees.declared_eq] at declared
      have other : key ∉ inner.declared := fun member => apart key declared key member rfl
      rw [members key (List.mem_append_left _ declared),
        inner.lookup_entries_outer own value values other]
  have nested : inner.read (map.filterKeys fun key => decide (key ∉ des.declared)) =
      .ok value := by
    apply inner.read_members value _
    intro key declared
    have other : key ∉ sers.written := fun member => apart key member key declared rfl
    have kept : key ∉ dropped := fun drop => by
      have readable := optional key drop (List.mem_append_right _ declared)
      exact other (agrees.declared_eq ▸ des.optional_subset_declared readable)
    rw [BTreeMap.get?_filterKeys, agrees.declared_eq,
      members key (List.mem_append_right _ declared),
      inner.lookup_entries_inner own value values other]
    simp [other, kept]
  rw [fromMap, outer, ok_bind, nested, ok_bind]
  rfl

end Flattened

/-! ## Internally tagged enums -/

/-- What is left of a value once the tag is taken off, as `serde` buffers it. -/
inductive Content where
  | map (members : JsonMap)
  | seq (elements : List Json)

/-- The member under a key, or the element at the position of the key. -/
def Content.supplied (declared : List String) : Content → String → Option Json
  | .map members, key => members.get? key
  | .seq elements, key => elements[declared.idxOf key]?

/-- Take the tag off a value: the member under its key, or the first element. -/
def untag (tag : String) (value : Json) : Option (Json × Content) :=
  match value.view with
  | .object map => (map.get? tag).map fun tagValue => (tagValue, .map (map.erase tag))
  | .array (tagValue :: elements) => some (tagValue, .seq elements)
  | _ => none

/-- The tag comes first, and what is left supplies what the value did. -/
theorem supplied_of_untag {tag : String} {value tagValue : Json} {content : Content}
    (untagged : untag tag value = some (tagValue, content)) (declared : List String) :
    value.supplied (tag :: declared) tag = some tagValue ∧
      ∀ key, key ≠ tag → value.supplied (tag :: declared) key = content.supplied declared key := by
  cases value with
  | object map =>
      simp only [untag, Json.view_object, Option.map_eq_some_iff, Prod.mk.injEq] at untagged
      rcases untagged with ⟨_, present, rfl, rfl⟩
      rw [Json.supplied_object]
      refine ⟨present, fun key other => ?_⟩
      rw [Content.supplied, BTreeMap.get?_erase, if_neg other]
  | array elements =>
      cases elements with
      | nil => simp [untag] at untagged
      | cons head rest =>
          simp only [untag, Json.view_array, Option.some.injEq, Prod.mk.injEq] at untagged
          rcases untagged with ⟨rfl, rfl⟩
          simp only [Json.supplied_array, List.idxOf_cons_self, List.getElem?_cons_zero, true_and]
          intro key other
          rw [List.idxOf_cons_ne _ other.symm, List.getElem?_cons_succ, Content.supplied]
  | _ => simp [untag] at untagged

/-- What a variant carries: nothing, fields of its own, or a flattened value and
fields of its own. -/
inductive Body : List Type → Type 1 where
  | unit : Body []
  | struct {types : List Type} : Fields Field types → Body types
  | flat {E : Type} {types : List Type} :
      Flattened E → Fields Field types → Body (E :: types)

namespace Body

variable {types : List Type}

/-- The keys a variant reads. -/
def declared : {types : List Type} → Body types → List String
  | _, .unit => []
  | _, .struct fields => fields.ser.written
  | _, .flat inner fields => fields.ser.written ++ inner.declared

/-- The keys of a variant whose absence is not an error. -/
def optional : {types : List Type} → Body types → List String
  | _, .unit => []
  | _, .struct fields => fields.de.optional
  | _, .flat _ fields => fields.de.optional

/-- The members a variant is written with, the tag excepted. -/
def entries : {types : List Type} → Body types → Tuple types → List (String × Json)
  | _, .unit, _ => []
  | _, .struct fields, values => fields.ser.entries values
  | _, .flat inner fields, values => inner.entries fields.ser values

/-- Replace the fields under the given keys by what their absence reads as. -/
def forget (keys : List String) : {types : List Type} → Body types → Tuple types → Tuple types
  | _, .unit, _ => ()
  | _, .struct fields, values => fields.de.forget keys values
  | _, .flat _ fields, (value, values) => (value, fields.de.forget keys values)

/-- Read a variant from what is left beside the tag.  A unit variant skips every
member, and a variant with a flattened field has no sequence form. -/
def read (expecting : String) : {types : List Type} → Body types → Content →
    Except DeError (Tuple types)
  | _, .unit, .map _ => .ok ()
  | _, .unit, .seq elements => Fields.nil.fromSeq .content expecting elements
  | _, .struct fields, .map map => fields.de.fromMap .content map
  | _, .struct fields, .seq elements => fields.de.fromSeq .content expecting elements
  | _, .flat inner fields, .map map => inner.fromMap .content fields.de map
  | _, .flat _ _, .seq _ => .error (.invalidType .seq expecting)

@[simp] theorem forget_nil (body : Body types) (values : Tuple types) :
    body.forget [] values = values := by
  cases body with
  | unit => rfl
  | struct fields => exact fields.de.forget_nil values
  | flat inner fields => simp [forget]

theorem optional_subset_declared (body : Body types) : body.optional ⊆ body.declared := by
  cases body with
  | unit => exact List.Subset.refl _
  | struct fields =>
      rw [declared, ← fields.ser_agrees_de.declared_eq]
      exact fields.de.optional_subset_declared
  | flat inner fields =>
      rw [declared, ← fields.ser_agrees_de.declared_eq]
      exact List.subset_append_of_subset_left _ fields.de.optional_subset_declared

theorem lookup_undeclared (body : Body types) (values : Tuple types) {key : String}
    (distinct : body.declared.Nodup) (undeclared : key ∉ body.declared) :
    BTreeMap.lookup key (body.entries values) = none := by
  cases body with
  | unit => rfl
  | struct fields =>
      rw [entries, Fields.lookup_entries _ distinct, Fields.member_eq_none _ _ undeclared]
  | flat inner fields =>
      rcases List.nodup_append.mp distinct with ⟨own, _, _⟩
      simp only [declared, List.mem_append, not_or] at undeclared
      rw [entries, inner.lookup_entries_inner own _ _ undeclared.1,
        inner.get?_undeclared _ undeclared.2]

/-- What a variant writes is read back, also with optional members dropped. -/
theorem read_members (expecting : String) (body : Body types) (values : Tuple types)
    (distinct : body.declared.Nodup) (map : JsonMap) (dropped : List String)
    (optional : ∀ key ∈ dropped, key ∈ body.declared → key ∈ body.optional)
    (members : ∀ key ∈ body.declared, map.get? key =
      if key ∈ dropped then none else BTreeMap.lookup key (body.entries values)) :
    body.read expecting (.map map) = .ok (body.forget dropped values) := by
  cases body with
  | unit => rfl
  | struct fields =>
      have agrees := fields.ser_agrees_de
      simp only [declared, ← agrees.declared_eq] at optional members
      refine agrees.fromMap_members distinct .content values map dropped optional
        fun key declared => ?_
      rw [members key declared, entries, Fields.lookup_entries _ distinct]
  | flat inner fields =>
      exact inner.fromMap_members .content fields.ser_agrees_de distinct values.1 values.2
        map dropped optional members

/-- The values are those that what is left beside the tag gives the fields. -/
def Filled (content : Content) : {types : List Type} → Body types → Tuple types → Prop
  | _, .unit, _ => True
  | _, .struct fields, values =>
      fields.de.Filled .content (content.supplied fields.ser.written) values
  | _, .flat inner fields, (value, values) =>
      ∃ map, content = .map map ∧ fields.de.Filled .content map.get? values ∧
        inner.read (map.filterKeys fun key => decide (key ∉ fields.de.declared)) = .ok value

/-- What is read of a variant is what was left beside the tag. -/
theorem filled_of_read {expecting : String} {body : Body types} (distinct : body.declared.Nodup)
    {content : Content} {values : Tuple types}
    (read : body.read expecting content = .ok values) : body.Filled content values := by
  cases body with
  | unit => trivial
  | struct fields =>
      have keys := fields.ser_agrees_de.declared_eq
      rw [declared, ← keys] at distinct
      rw [Filled, ← keys]
      cases content with
      | map map => exact ((Fields.fromMap_eq_ok_iff .content fields.de map values).mp read).filled
      | seq elements => exact (Fields.filled_of_fromSeq distinct read).1
  | flat inner fields =>
      cases content with
      | map map =>
          rcases bind_eq_ok.mp read with ⟨raw, readOuter, rest⟩
          rcases bind_eq_ok.mp rest with ⟨value, readInner, finished⟩
          cases finished
          exact ⟨map, rfl,
            ((Fields.fromMap_eq_ok_iff .content fields.de map raw).mp readOuter).filled, readInner⟩
      | seq elements => cases read

/-- What is written under a key for a field at the value its absence means. -/
def silence : {types : List Type} → Body types → String → Option Json
  | _, .unit, _ => none
  | _, .struct fields, key => fields.silence key
  | _, .flat _ fields, key => fields.silence key

/-- The fields whose absence means a value are then left out or written as `null`. -/
def quiet : {types : List Type} → Body types → Bool
  | _, .unit => true
  | _, .struct fields => fields.quiet
  | _, .flat _ fields => fields.quiet

theorem silence_of_quiet {body : Body types} (quiet : body.quiet = true) (key : String) :
    ∀ written ∈ body.silence key, written = .null := by
  cases body with
  | unit => simp [silence]
  | struct fields => exact Fields.silence_of_quiet quiet key
  | flat inner fields => exact Fields.silence_of_quiet quiet key

/-- Forgetting fields changes what is written under their keys, and nothing else. -/
theorem lookup_forget (body : Body types) (distinct : body.declared.Nodup)
    (dropped : List String) (values : Tuple types) (key : String) :
    BTreeMap.lookup key (body.entries (body.forget dropped values)) =
      if key ∈ dropped ∧ key ∈ body.optional then body.silence key
      else BTreeMap.lookup key (body.entries values) := by
  cases body with
  | unit => simp [optional, entries]
  | struct fields =>
      simp only [entries, forget, Fields.lookup_entries _ distinct, optional, silence]
      exact Fields.member_forget distinct dropped values key
  | flat inner fields =>
      rcases values with ⟨value, values⟩
      rcases List.nodup_append.mp distinct with ⟨own, _, apart⟩
      simp only [entries, forget, optional, silence]
      by_cases written : key ∈ fields.ser.written
      · have other : key ∉ inner.declared := fun member => apart key written key member rfl
        simp only [inner.lookup_entries_outer own value _ other]
        exact Fields.member_forget own dropped values key
      · have fixed : key ∉ fields.de.optional := fun member =>
          written (fields.ser_agrees_de.declared_eq ▸ fields.de.optional_subset_declared member)
        simp only [inner.lookup_entries_inner own value _ written, fixed, and_false, if_false]

end Body

/-- A value of one of the given tuple types. -/
@[reducible] def Choice : List (List Type) → Type
  | [] => Empty
  | types :: rows => Tuple types ⊕ Choice rows

/-- The variants of an enum, in declaration order: the Rust name, the wire name and
the body of each. -/
inductive Variants : List (List Type) → Type 1 where
  | nil : Variants []
  | cons {types : List Type} {rows : List (List Type)} :
      String → String → Body types → Variants rows → Variants (types :: rows)

namespace Variants

variable {rows : List (List Type)}

/-- A variant that carries nothing, before the given ones. -/
def unit (ident wire : String) (rest : Variants rows) : Variants ([] :: rows) :=
  .cons ident wire .unit rest

/-- A variant with fields, before the given ones. -/
def struct {types : List Type} (ident wire : String) (fields : Fields Field types)
    (rest : Variants rows) : Variants (types :: rows) :=
  .cons ident wire (.struct fields) rest

/-- A variant with a flattened field and others, before the given ones. -/
def flat {E : Type} {types : List Type} (ident wire : String) (inner : Flattened E)
    (fields : Fields Field types) (rest : Variants rows) : Variants ((E :: types) :: rows) :=
  .cons ident wire (.flat inner fields) rest

/-- The wire names. -/
def wires : {rows : List (List Type)} → Variants rows → List String
  | _, .nil => []
  | _, .cons _ wire _ rest => wire :: rest.wires

/-- The keys any of the variants reads. -/
def declared : {rows : List (List Type)} → Variants rows → List String
  | _, .nil => []
  | _, .cons _ _ body rest => body.declared ++ rest.declared

/-- No variant reads a key twice, or reads the key of the tag. -/
def Separate (tag : String) : {rows : List (List Type)} → Variants rows → Bool
  | _, .nil => true
  | _, .cons _ _ body rest => decide (tag :: body.declared).Nodup && rest.Separate tag

/-- The wire name of the variant of a value. -/
def wire : {rows : List (List Type)} → Variants rows → Choice rows → String
  | _, .cons _ wire _ _, .inl _ => wire
  | _, .cons _ _ _ rest, .inr choice => rest.wire choice

/-- The members a value is written with, the tag excepted. -/
def entries : {rows : List (List Type)} → Variants rows → Choice rows → List (String × Json)
  | _, .cons _ _ body _, .inl values => body.entries values
  | _, .cons _ _ _ rest, .inr choice => rest.entries choice

/-- The keys that may be missing from the object of a value. -/
def optional : {rows : List (List Type)} → Variants rows → Choice rows → List String
  | _, .cons _ _ body _, .inl _ => body.optional
  | _, .cons _ _ _ rest, .inr choice => rest.optional choice

/-- Replace the fields under the given keys by what their absence reads as. -/
def forget (keys : List String) : {rows : List (List Type)} → Variants rows →
    Choice rows → Choice rows
  | _, .cons _ _ body _, .inl values => .inl (body.forget keys values)
  | _, .cons _ _ _ rest, .inr choice => .inr (rest.forget keys choice)

/-- The fields of the variant have the values that what is left beside the tag gives. -/
def Filled (content : Content) : {rows : List (List Type)} → Variants rows → Choice rows → Prop
  | _, .cons _ _ body _, .inl values => body.Filled content values
  | _, .cons _ _ _ rest, .inr choice => rest.Filled content choice

/-- What is written under a key for a field at the value its absence means. -/
def silence : {rows : List (List Type)} → Variants rows → Choice rows → String → Option Json
  | _, .cons _ _ body _, .inl _, key => body.silence key
  | _, .cons _ _ _ rest, .inr choice, key => rest.silence choice key

/-- The fields whose absence means a value are then left out or written as `null`. -/
def quiet : {rows : List (List Type)} → Variants rows → Bool
  | _, .nil => true
  | _, .cons _ _ body rest => body.quiet && rest.quiet

/-- The reader of a later variant, as one of the whole enum. -/
def widen {types : List Type} (read : Content → Except DeError (Choice rows)) :
    Content → Except DeError (Choice (types :: rows)) :=
  fun content => Sum.inr <$> read content

/-- The wire name of each variant, and the reader of its body. -/
def arms (enum : String) : {rows : List (List Type)} → Variants rows →
    List (String × (Content → Except DeError (Choice rows)))
  | _, .nil => []
  | _, .cons ident wire body rest =>
      (wire, fun content =>
          .inl <$> body.read ("struct variant " ++ enum ++ "::" ++ ident) content) ::
        (rest.arms enum).map fun arm => (arm.1, widen arm.2)

variable {tag enum : String}

theorem separate_cons {types : List Type} {ident wire : String} {body : Body types}
    {rest : Variants rows} :
    (cons ident wire body rest).Separate tag = true ↔
      (tag :: body.declared).Nodup ∧ rest.Separate tag = true := by
  simp only [Separate, Bool.and_eq_true, decide_eq_true_eq]

theorem wire_mem_wires (variants : Variants rows) (choice : Choice rows) :
    variants.wire choice ∈ variants.wires := by
  induction variants with
  | nil => exact choice.elim
  | cons ident wire body rest ih =>
      cases choice with
      | inl values => exact List.mem_cons_self
      | inr choice => exact List.mem_cons_of_mem _ (ih choice)

/-- A variant writes nothing under a key that no variant reads. -/
theorem lookup_undeclared (variants : Variants rows) (separate : variants.Separate tag = true)
    (choice : Choice rows) {key : String} (undeclared : key ∉ variants.declared) :
    BTreeMap.lookup key (variants.entries choice) = none := by
  induction variants with
  | nil => exact choice.elim
  | cons ident wire body rest ih =>
      rcases separate_cons.mp separate with ⟨distinct, separate⟩
      simp only [declared, List.mem_append, not_or] at undeclared
      cases choice with
      | inl values =>
          exact body.lookup_undeclared values (List.nodup_cons.mp distinct).2 undeclared.1
      | inr choice => exact ih separate choice undeclared.2

theorem optional_subset_declared (variants : Variants rows) (choice : Choice rows) :
    variants.optional choice ⊆ variants.declared := by
  induction variants with
  | nil => exact choice.elim
  | cons ident wire body rest ih =>
      cases choice with
      | inl values =>
          exact List.subset_append_of_subset_left _ body.optional_subset_declared
      | inr choice => exact List.subset_append_of_subset_right _ (ih choice)

@[simp] theorem forget_nil (variants : Variants rows) (choice : Choice rows) :
    variants.forget [] choice = choice := by
  induction variants with
  | nil => exact choice.elim
  | cons ident wire body rest ih =>
      cases choice with
      | inl values => rw [forget, Body.forget_nil]
      | inr choice => rw [forget, ih]

theorem silence_of_quiet {variants : Variants rows} (quiet : variants.quiet = true)
    (choice : Choice rows) (key : String) :
    ∀ written ∈ variants.silence choice key, written = .null := by
  induction variants with
  | nil => exact choice.elim
  | cons ident wire body rest ih =>
      rcases Bool.and_eq_true_iff.mp quiet with ⟨first, others⟩
      cases choice with
      | inl values => exact Body.silence_of_quiet first key
      | inr choice => exact ih others choice

theorem wire_forget (variants : Variants rows) (dropped : List String) (choice : Choice rows) :
    variants.wire (variants.forget dropped choice) = variants.wire choice := by
  induction variants with
  | nil => exact choice.elim
  | cons ident wire body rest ih =>
      cases choice with
      | inl values => rfl
      | inr choice => exact ih choice

/-- Forgetting fields changes what is written under their keys, and nothing else. -/
theorem lookup_forget (variants : Variants rows) (separate : variants.Separate tag = true)
    (dropped : List String) (choice : Choice rows) (key : String) :
    BTreeMap.lookup key (variants.entries (variants.forget dropped choice)) =
      if key ∈ dropped ∧ key ∈ variants.optional choice then variants.silence choice key
      else BTreeMap.lookup key (variants.entries choice) := by
  induction variants with
  | nil => exact choice.elim
  | cons ident wire body rest ih =>
      rcases separate_cons.mp separate with ⟨own, separate⟩
      cases choice with
      | inl values => exact body.lookup_forget (List.nodup_cons.mp own).2 dropped values key
      | inr choice => exact ih separate choice

/-- No variant reads the key of the tag. -/
theorem tag_not_mem_declared (variants : Variants rows)
    (separate : variants.Separate tag = true) : tag ∉ variants.declared := by
  induction variants with
  | nil => exact List.not_mem_nil
  | cons ident wire body rest ih =>
      rcases separate_cons.mp separate with ⟨distinct, separate⟩
      simp only [declared, List.mem_append, not_or]
      exact ⟨(List.nodup_cons.mp distinct).1, ih separate⟩

variable (enum) in
/-- The arm under the wire name of a value reads back the members the value is
written with, also with optional ones dropped. -/
theorem arm_reads (variants : Variants rows) (distinct : variants.wires.Nodup)
    (separate : variants.Separate tag = true) (choice : Choice rows) (map : JsonMap)
    (dropped : List String)
    (optional : ∀ key ∈ dropped, key ∈ variants.declared → key ∈ variants.optional choice)
    (members : ∀ key ∈ variants.declared, map.get? key =
      if key ∈ dropped then none else BTreeMap.lookup key (variants.entries choice)) :
    ∃ arm, BTreeMap.lookup (variants.wire choice) (variants.arms enum) = some arm ∧
      arm (.map map) = .ok (variants.forget dropped choice) := by
  induction variants with
  | nil => exact choice.elim
  | cons ident wire body rest ih =>
      rcases List.nodup_cons.mp distinct with ⟨fresh, distinct⟩
      rcases separate_cons.mp separate with ⟨own, separate⟩
      simp only [declared, List.mem_append] at optional members
      cases choice with
      | inl values =>
          have read := body.read_members ("struct variant " ++ enum ++ "::" ++ ident) values
            (List.nodup_cons.mp own).2 map dropped
            (fun key drop declared => optional key drop (.inl declared))
            (fun key declared => members key (.inl declared))
          refine ⟨_, BTreeMap.lookup_cons_self .., ?_⟩
          simp only [read]
          rfl
      | inr choice =>
          obtain ⟨arm, found, read⟩ := ih distinct separate choice
            (fun key drop declared => optional key drop (.inr declared))
            (fun key declared => members key (.inr declared))
          have other : wire ≠ rest.wire choice := fun same =>
            fresh (same ▸ rest.wire_mem_wires choice)
          refine ⟨widen arm, ?_, ?_⟩
          · rw [arms, Variants.wire, BTreeMap.lookup_cons_of_ne other.symm,
              BTreeMap.lookup_map, found]
            rfl
          · simp only [widen, read]
            rfl

/-- The arm under a wire name reads values of the variant of that name, from what is
left beside the tag. -/
theorem filled_of_arm {variants : Variants rows} (separate : variants.Separate tag = true)
    {name : String} {content : Content} {choice : Choice rows}
    {arm : Content → Except DeError (Choice rows)}
    (found : BTreeMap.lookup name (variants.arms enum) = some arm)
    (read : arm content = .ok choice) :
    variants.wire choice = name ∧ variants.Filled content choice := by
  induction variants with
  | nil => exact choice.elim
  | cons ident wire body rest ih =>
      rcases separate_cons.mp separate with ⟨own, separate⟩
      rw [arms, BTreeMap.lookup_cons] at found
      split at found
      next same =>
        cases found
        rcases map_eq_ok.mp read with ⟨values, readBody, rfl⟩
        exact ⟨same.symm, body.filled_of_read (List.nodup_cons.mp own).2 readBody⟩
      next =>
        rw [BTreeMap.lookup_map, Option.map_eq_some_iff] at found
        rcases found with ⟨later, found, rfl⟩
        rcases map_eq_ok.mp read with ⟨choice, readLater, rfl⟩
        exact ih separate found readLater

end Variants

/-- Choose the arm a tag names.  A buffered tag may also be the position of the
variant. -/
def pickArm {β : Type} (source : Source) (arms : List (String × β)) (tag : Json) :
    Except DeError β :=
  match tag.view, source with
  | .string name, _ =>
      match BTreeMap.lookup name arms with
      | some arm => .ok arm
      | none => .error (.unknownVariant name (arms.map Prod.fst))
  | .number (.int position), .content =>
      if 0 ≤ position.1 then
        match arms[position.1.toNat]? with
        | some arm => .ok arm.2
        | none => .error (.invalidValue (.int position.1)
            ("variant index 0 <= i < " ++ toString arms.length))
      else mismatch tag "variant identifier"
  | _, _ => mismatch tag "variant identifier"

theorem pickArm_string {β : Type} (source : Source) {arms : List (String × β)} {name : String}
    {arm : β} (found : BTreeMap.lookup name arms = some arm) :
    pickArm source arms (.string name) = .ok arm := by
  simp only [pickArm, Json.view_string, found]

/-- Only a text names an arm where the tag is read directly. -/
theorem pickArm_value_eq_ok {β : Type} {arms : List (String × β)} {tag : Json} {arm : β}
    (picked : pickArm .value arms tag = .ok arm) :
    ∃ name, tag = .string name ∧ BTreeMap.lookup name arms = some arm := by
  cases tag with
  | string name =>
      simp only [pickArm, Json.view_string] at picked
      split at picked
      next other found =>
        cases picked
        exact ⟨name, rfl, found⟩
      next => cases picked
  | number value =>
      cases value <;> simp [pickArm, mismatch] at picked
  | _ => simp [pickArm, mismatch] at picked

/-- `#[derive(Serialize, Deserialize)]` of an enum with `#[serde(tag = …)]`. -/
class TaggedEnum (E : Type) where
  name : String
  tag : String
  rows : List (List Type)
  variants : Variants rows
  equiv : E ≃ Choice rows
  distinct : variants.wires.Nodup := by decide
  separate : variants.Separate tag = true := by decide

namespace TaggedEnum

variable {E : Type} [TaggedEnum E]

/-- The value as a choice of variant. -/
def choice (value : E) : Choice (rows E) := equiv (E := E) value

/-- The value a choice of variant stands for. -/
def ofChoice (choice : Choice (rows E)) : E := (equiv (E := E)).symm choice

@[simp] theorem ofChoice_choice (value : E) : ofChoice (choice value) = value :=
  (equiv (E := E)).symm_apply_apply value

/-- The members a value is written with. -/
def members (value : E) : JsonMap :=
  .ofList ((tag E, .string (variants.wire (choice value))) :: variants.entries (choice value))

/-- Read the body the tag names from what is left beside it. -/
def readTagged (source : Source) (tagValue : Json) (content : Content) : Except DeError E := do
  let arm ← pickArm source (variants.arms (name E)) tagValue
  ofChoice <$> arm content

/-- Read a value from the members of an object. -/
def fromMap (source : Source) (map : JsonMap) : Except DeError E :=
  match map.get? (tag E) with
  | some tagValue => readTagged source tagValue (.map (map.erase (tag E)))
  | none => .error (.missingField (tag E))

/-- Read a value from a sequence, the tag first. -/
def fromSeq (source : Source) : List Json → Except DeError E
  | tagValue :: elements => readTagged source tagValue (.seq elements)
  | [] => .error (.missingField (tag E))

instance : Serialize E := ⟨fun value => .object (members value)⟩

instance : Deserialize E where
  fromSource source value :=
    match value.view with
    | .object map => fromMap source map
    | .array elements => fromSeq source elements
    | _ => mismatch value ("internally tagged enum " ++ name E)

/-- A value read from JSON is of the variant its tag names, with the fields that what is
left beside the tag gives. -/
theorem exists_filled {value : Json} {result : E} (read : fromValue value = .ok result) :
    ∃ content, untag (tag E) value = some (.string (variants.wire (choice result)), content) ∧
      variants.Filled content (choice result) := by
  -- both forms hand the tag and the rest to one reader
  have tagged : ∃ tagValue content, untag (tag E) value = some (tagValue, content) ∧
      readTagged .value tagValue content = .ok result := by
    cases value with
    | object map =>
        simp only [fromValue, fromSource, Json.view_object, fromMap] at read
        split at read
        next tagValue present => exact ⟨_, _, by simp [untag, present], read⟩
        next => cases read
    | array elements =>
        cases elements with
        | nil => cases read
        | cons tagValue rest => exact ⟨tagValue, .seq rest, rfl, read⟩
    | _ => simp [fromValue, fromSource, mismatch] at read
  rcases tagged with ⟨tagValue, content, untagged, read⟩
  rcases bind_eq_ok.mp read with ⟨arm, picked, built⟩
  rcases map_eq_ok.mp built with ⟨chosen, readArm, rfl⟩
  rcases pickArm_value_eq_ok picked with ⟨name, rfl, found⟩
  rcases Variants.filled_of_arm separate found readArm with ⟨rfl, filled⟩
  exact ⟨content, by simpa [choice, ofChoice] using untagged,
    by simpa [choice, ofChoice] using filled⟩

/-- A value read from an object is of the variant its tag names, with the fields that the
other members give. -/
theorem filled_of_object {map : JsonMap} {result : E}
    (read : fromValue (.object map) = .ok result) :
    map.get? (tag E) = some (.string (variants.wire (choice result))) ∧
      variants.Filled (.map (map.erase (tag E))) (choice result) := by
  rcases exists_filled read with ⟨content, untagged, filled⟩
  simp only [untag, Json.view_object, Option.map_eq_some_iff, Prod.mk.injEq] at untagged
  rcases untagged with ⟨_, present, rfl, rfl⟩
  exact ⟨present, filled⟩

/-- Every key the reader looks at. -/
def declared (E : Type) [TaggedEnum E] : List String := tag E :: (variants (E := E)).declared

theorem get?_members_tag (value : E) :
    (members value).get? (tag E) = some (.string (variants.wire (choice value))) := by
  rw [members, BTreeMap.get?_ofList, BTreeMap.lookup_cons_self]

theorem get?_members_of_ne (value : E) {key : String} (other : key ≠ tag E) :
    (members value).get? key = BTreeMap.lookup key (variants.entries (choice value)) := by
  rw [members, BTreeMap.get?_ofList, BTreeMap.lookup_cons_of_ne other]

/-- What is read of an object with the tag of a value is of the variant of the value. -/
theorem wire_eq_of_read {map : JsonMap} {value result : E}
    (kept : map.get? (tag E) = (toValue value).member (tag E))
    (read : fromValue (.object map) = .ok result) :
    variants.wire (choice result) = variants.wire (choice value) := by
  have object : toValue value = .object (members value) := rfl
  rw [object, Json.member_object, get?_members_tag, (filled_of_object read).1] at kept
  exact Json.string.inj (Option.some.inj kept)

theorem get?_undeclared (value : E) {key : String} (undeclared : key ∉ declared E) :
    (members value).get? key = none := by
  rcases not_or.mp (List.mem_cons.not.mp undeclared) with ⟨other, undeclared⟩
  rw [get?_members_of_ne value other]
  exact variants.lookup_undeclared separate (choice value) undeclared

/-- What is written is read back, also with optional members dropped. -/
theorem fromMap_members (source : Source) (value : E) (map : JsonMap) (dropped : List String)
    (optional : ∀ key ∈ dropped, key ∈ declared E → key ∈ variants.optional (choice value))
    (agrees : ∀ key ∈ declared E,
      map.get? key = if key ∈ dropped then none else (members value).get? key) :
    fromMap source map = .ok (ofChoice (variants.forget dropped (choice value))) := by
  have reserved := (variants (E := E)).tag_not_mem_declared separate
  have kept : tag E ∉ dropped := fun drop => by
    have readable := optional _ drop List.mem_cons_self
    exact reserved (variants.optional_subset_declared _ readable)
  obtain ⟨arm, found, read⟩ := variants.arm_reads (name E) distinct separate
    (choice value) (map.erase (tag E)) dropped
    (fun key drop declared => optional key drop (List.mem_cons_of_mem _ declared))
    (fun key declared => by
      have other : key ≠ tag E := fun same => reserved (same ▸ declared)
      rw [BTreeMap.get?_erase, if_neg other, agrees key (List.mem_cons_of_mem _ declared),
        get?_members_of_ne value other])
  have present : map.get? (tag E) = some (.string (variants.wire (choice value))) := by
    rw [agrees _ List.mem_cons_self, if_neg kept, get?_members_tag]
  simp only [fromMap, present, readTagged]
  rw [pickArm_string source found, ok_bind, read]
  rfl

@[simp] theorem choice_ofChoice (choice : Choice (rows E)) :
    TaggedEnum.choice (ofChoice (E := E) choice) = choice :=
  (equiv (E := E)).apply_symm_apply choice

/-- Forgetting fields changes what is written under their keys, and nothing else. -/
theorem get?_forget (dropped : List String) (value : E) (key : String) :
    (members (ofChoice (E := E) (variants.forget dropped (choice value)))).get? key =
      if key ∈ dropped ∧ key ∈ variants.optional (choice value) then
        variants.silence (choice value) key
      else (members value).get? key := by
  by_cases same : key = tag E
  · have fixed : tag E ∉ variants.optional (choice value) := fun member =>
      (variants (E := E)).tag_not_mem_declared separate
        (variants.optional_subset_declared _ member)
    simp only [same, fixed, and_false, if_false, get?_members_tag, choice_ofChoice,
      Variants.wire_forget]
  · rw [get?_members_of_ne _ same, get?_members_of_ne _ same, choice_ofChoice]
    exact variants.lookup_forget separate dropped (choice value) key

instance : OpenObject E where
  declared := declared E
  members := members
  optional value := variants.optional (choice value)
  forget dropped value := ofChoice (variants.forget dropped (choice value))
  toValue_eq _ := rfl
  get?_undeclared := get?_undeclared
  silence value := variants.silence (choice value)
  quiet := (variants (E := E)).quiet
  forget_nil value := by rw [Variants.forget_nil, ofChoice_choice]
  get?_forget := get?_forget
  silence_of_quiet quiet value := Variants.silence_of_quiet quiet (choice value)
  fromSource_members source value map dropped optional agrees := by
    simp only [fromSource, Json.view_object]
    exact fromMap_members source value map dropped optional agrees

/-- The enum as a flattened field. -/
def flattened (E : Type) [TaggedEnum E] : Flattened E where
  declared := (declared E).dedup
  members := members
  read := fromMap .content
  get?_undeclared value _ undeclared := get?_undeclared value (List.mem_dedup.not.mp undeclared)
  read_members value map agrees := by
    simp only [List.mem_dedup] at agrees
    rw [fromMap_members .content value map [] (by simp) (by simpa using agrees),
      Variants.forget_nil, ofChoice_choice]

end TaggedEnum

/-! ## Structs with a flattened field -/

/-- `#[derive(Serialize, Deserialize)]` of a struct one of whose fields is
flattened.  The fields of its own are described as those of any other struct. -/
class FlatStruct (S : Type) where
  name : String
  Inner : Type
  inner : Flattened Inner
  types : List Type
  fields : Fields Field types
  equiv : S ≃ Inner × Tuple types
  distinct : (fields.ser.written ++ inner.declared).Nodup := by decide

namespace FlatStruct

variable {S : Type} [FlatStruct S]

instance : Serialize S where
  toValue value := .object (.ofList ((inner (S := S)).entries fields.ser (equiv value)))

instance : Deserialize S where
  fromSource source value :=
    match value.view with
    | .object map =>
        (equiv (S := S)).symm <$> (inner (S := S)).fromMap source fields.de map
    | _ => mismatch value ("struct " ++ name S)

instance : LawfulSerde S where
  fromSource_toValue source value := by
    have read := (inner (S := S)).fromMap_members source fields.ser_agrees_de distinct
      (equiv value).1 (equiv value).2 (.ofList (inner.entries fields.ser (equiv value))) []
      (by simp) (fun key _ => by simp [BTreeMap.get?_ofList])
    simp only [fromSource, toValue, Json.view_object, read, Fields.forget_nil, Prod.mk.eta]
    exact congrArg Except.ok ((equiv (S := S)).symm_apply_apply value)

instance : NeverNull S := ⟨fun _ => nofun⟩

end FlatStruct

end Serde
