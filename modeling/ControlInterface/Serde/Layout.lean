import ControlInterface.Serde.Struct

/-!
# Structs as sequences

A derived reader of a struct takes a sequence as well as an object.  The order in which
the fields are declared then says which field an element is for, and this module states
what that comes to: the reader takes a sequence as it takes the object that names the
elements, and it lets only those fields go that have a default of their own.
-/

namespace Serde

/-- The keys of a struct in declaration order, each with whether a sequence may end
before it. -/
abbrev Layout : Type := List (String × Bool)

namespace Layout

def keys (layout : Layout) : List String := layout.map Prod.fst

/-- There is a key for each of so many elements, and a sequence may end before the next. -/
def Covers (layout : Layout) (count : Nat) : Prop :=
  count ≤ layout.length ∧ ∀ entry ∈ layout.drop count, entry.2 = true

instance (layout : Layout) (count : Nat) : Decidable (layout.Covers count) :=
  inferInstanceAs (Decidable (_ ∧ _))

/-- The object of the elements under the keys in order. -/
def named (layout : Layout) (elements : List Json) : JsonMap :=
  .ofList (layout.keys.zip elements)

theorem covers_nil_iff {count : Nat} : Covers [] count ↔ count = 0 := by
  simp [Covers]

theorem covers_cons_zero_iff {key : String} {omissible : Bool} {rest : Layout} :
    Covers ((key, omissible) :: rest) 0 ↔ omissible = true ∧ rest.Covers 0 := by
  simp [Covers]

theorem covers_cons_succ_iff {entry : String × Bool} {rest : Layout} {count : Nat} :
    Covers (entry :: rest) (count + 1) ↔ rest.Covers count := by
  simp [Covers]

theorem get?_named_nil (layout : Layout) (key : String) : (layout.named []).get? key = none := by
  simp [named]

theorem get?_named_self {key : String} {omissible : Bool} {rest : Layout} {element : Json}
    {elements : List Json} :
    (named ((key, omissible) :: rest) (element :: elements)).get? key = some element := by
  simp [named, keys]

theorem get?_named_of_ne {key other : String} {omissible : Bool} {rest : Layout} {element : Json}
    {elements : List Json} (distinct : other ≠ key) :
    (named ((key, omissible) :: rest) (element :: elements)).get? other =
      (rest.named elements).get? other := by
  simp [named, keys, distinct]

end Layout

namespace Fields

/-- The layout of a field list.  A field that a sequence may end before has one value for
that and for a missing key. -/
inductive Laid : {types : List Type} → Fields DeField types → Layout → Prop where
  | nil : Laid .nil []
  | needed {type : Type} {types : List Type} {field : DeField type}
      {rest : Fields DeField types} {layout : Layout} :
      field.beyond = none → Laid rest layout →
      Laid (.cons field rest) ((field.name, false) :: layout)
  | omissible {type : Type} {types : List Type} {field : DeField type}
      {rest : Fields DeField types} {layout : Layout} {value : type} :
      field.absent = some value → field.beyond = some value → Laid rest layout →
        Laid (.cons field rest) ((field.name, true) :: layout)

section

variable {α : Type} [Deserialize α] {types : List Type} {fields : Fields DeField types}
  {layout : Layout}

theorem Laid.plain {name : String} (laid : Laid fields layout) :
    Laid (.cons (.plain name : DeField α) fields) ((name, false) :: layout) :=
  .needed rfl laid

theorem Laid.default {name : String} {value : α} (laid : Laid fields layout) :
    Laid (.cons (.default name value) fields) ((name, true) :: layout) :=
  .omissible rfl rfl laid

end

variable {types : List Type} {fields : Fields DeField types} {layout : Layout}

/-- The object of an element and others gives the element to the first field and is the
object of the others to the rest. -/
theorem reads_named_cons {type : Type} {field : DeField type} {rest : Fields DeField types}
    (fresh : field.name ∉ rest.declared) {omissible : Bool} {source : Source} {element : Json}
    {elements : List Json} {value : type} {values : Tuple types} :
    (Fields.cons field rest).Reads source
        (Layout.named ((field.name, omissible) :: layout) (element :: elements)) (value, values) ↔
      field.read source element = .ok value ∧ rest.Reads source (layout.named elements) values := by
  simp only [Reads, Layout.get?_named_self, DeField.take]
  apply and_congr_right
  intro _
  apply reads_congr
  intro key declared
  exact Layout.get?_named_of_ne fun same => fresh (same ▸ declared)

/-- A sequence is read as the object that names its elements, if the layout covers it. -/
theorem Laid.readsSeq_iff (laid : Laid fields layout) (distinct : fields.declared.Nodup)
    {source : Source} {elements : List Json} {values : Tuple types} :
    fields.ReadsSeq source elements values ↔
      layout.Covers elements.length ∧ fields.Reads source (layout.named elements) values := by
  induction laid generalizing elements with
  | nil => simp [ReadsSeq, Reads, Layout.covers_nil_iff]
  | needed beyond laid ih =>
      rcases List.nodup_cons.mp distinct with ⟨fresh, distinct⟩
      rcases values with ⟨value, values⟩
      cases elements with
      | nil => simp [ReadsSeq, beyond, Layout.covers_cons_zero_iff]
      | cons element elements =>
          rw [ReadsSeq, ih distinct, reads_named_cons fresh, List.length_cons,
            Layout.covers_cons_succ_iff]
          tauto
  | @omissible _ _ field rest layout filler absent beyond laid ih =>
      rcases List.nodup_cons.mp distinct with ⟨fresh, distinct⟩
      rcases values with ⟨value, values⟩
      cases elements with
      | nil =>
          have others : rest.Reads source (layout.named []) values ↔
              rest.Reads source (Layout.named ((field.name, true) :: layout) []) values :=
            reads_congr fun key _ => by rw [Layout.get?_named_nil, Layout.get?_named_nil]
          simp only [ReadsSeq, ih distinct, Reads, others, Layout.get?_named_nil, DeField.take,
            absent, beyond, Option.some.injEq, Except.ok.injEq, List.length_nil,
            Layout.covers_cons_zero_iff]
          tauto
      | cons element elements =>
          rw [ReadsSeq, ih distinct, reads_named_cons fresh, List.length_cons,
            Layout.covers_cons_succ_iff]
          tauto

end Fields

/-! ## Whole structs -/

/-- The reader takes the sequences the layout covers as the objects that name their elements,
and otherwise nothing but objects. -/
structure Positional {ε α : Type} (layout : Layout) (read : Json → Except ε α) : Prop where
  array {elements : List Json} {value : α} :
    read (.array elements) = .ok value ↔
      layout.Covers elements.length ∧ read (.object (layout.named elements)) = .ok value
  other {json : Json} {value : α} :
    read json = .ok value → (∃ map, json = .object map) ∨ ∃ elements, json = .array elements

section

variable {layout : Layout} {types : List Type} {fields : Fields DeField types}

theorem Fields.Laid.positional (laid : fields.Laid layout) (distinct : fields.declared.Nodup)
    (source : Source) (expecting : String) :
    Positional layout (fields.fromStruct source expecting) where
  array {elements values} := by
    simp only [Fields.fromStruct, Json.view_array, Json.view_object]
    rw [Fields.fromSeq_eq_ok_iff, laid.readsSeq_iff distinct, Fields.fromMap_eq_ok_iff]
  other {json values} read := by
    cases json with
    | object map => exact .inl ⟨map, rfl⟩
    | array elements => exact .inr ⟨elements, rfl⟩
    | _ => simp [Fields.fromStruct, mismatch] at read

/-- What follows a reader does not see whether it took a sequence. -/
theorem Positional.bind {ε α β : Type} {read : Json → Except ε α}
    (positional : Positional layout read) (next : α → Except ε β) :
    Positional layout fun json => read json >>= next where
  array := by
    simp only [bind_eq_ok, positional.array]
    intro elements value
    constructor
    · intro steps
      rcases steps with ⟨middle, ⟨covers, readMiddle⟩, rest⟩
      exact ⟨covers, middle, readMiddle, rest⟩
    · intro steps
      rcases steps with ⟨covers, middle, readMiddle, rest⟩
      exact ⟨middle, ⟨covers, readMiddle⟩, rest⟩
  other read := by
    rcases bind_eq_ok.mp read with ⟨_, readMiddle, _⟩
    exact positional.other readMiddle

/-- Only what is accepted counts. -/
theorem Positional.of_iff {ε δ α : Type} {left : Json → Except ε α} {right : Json → Except δ α}
    (positional : Positional layout right)
    (same : ∀ json value, left json = .ok value ↔ right json = .ok value) :
    Positional layout left where
  array := by simp only [same, positional.array, implies_true]
  other read := positional.other ((same _ _).mp read)

theorem DeriveStruct.positional {S : Type} [DeriveStruct S]
    (laid : (DeStruct.fields (S := S)).Laid layout) :
    Positional layout (fromValue : Json → Except DeError S) := by
  have distinct : (DeStruct.fields (S := S)).declared.Nodup :=
    (DeriveStruct.fields (S := S)).ser_agrees_de.declared_eq ▸ DeriveStruct.distinct
  have read := laid.positional distinct .value ("struct " ++ DeStruct.name S)
  refine (read.bind fun raw => .ok (DeStruct.ofTuple raw : S)).of_iff ?_
  intro json value
  rw [fromValue, fromSource, bind_eq_ok]
  exact map_eq_ok.trans (by simp only [Except.ok.injEq])

theorem ShadowStruct.positional {S : Type} [ShadowStruct S]
    (laid : (ShadowStruct.de (S := S)).Laid layout) :
    Positional layout (fromValue : Json → Except DeError S) := by
  have distinct : (ShadowStruct.de (S := S)).declared.Nodup :=
    (ShadowStruct.agrees (S := S)).declared_eq ▸ ShadowStruct.distinct
  exact (laid.positional distinct .value ("struct " ++ ShadowStruct.name S)).bind ShadowStruct.check

end

end Serde
