import ControlInterface.Serde.Json

/-!
# Serialization and deserialization

The two traits of `serde` over JSON values, and their implementations for the
types of the standard library.  A deserializer can be driven by a JSON value or
by the buffer `serde` first copies a value into when it has to look at a tag or
at the keys another type left over; the two drivers accept slightly different
spellings of an enum, so every reader is told which one it is under.
-/

namespace Serde

/-! ## Results -/

section Results

variable {ε α β : Type}

theorem bind_eq_ok {first : Except ε α} {next : α → Except ε β} {result : β} :
    first >>= next = .ok result ↔ ∃ value, first = .ok value ∧ next value = .ok result := by
  cases first <;> simp [bind, Except.bind]

theorem map_eq_ok {first : Except ε α} {image : α → β} {result : β} :
    image <$> first = .ok result ↔ ∃ value, first = .ok value ∧ image value = result := by
  cases first <;> simp [Functor.map, Except.map]

@[simp] theorem ok_bind (value : α) (next : α → Except ε β) :
    (Except.ok value : Except ε α) >>= next = next value := rfl

@[simp] theorem error_bind (error : ε) (next : α → Except ε β) :
    (Except.error error : Except ε α) >>= next = .error error := rfl

@[simp] theorem map_ok (image : α → β) (value : α) :
    image <$> (Except.ok value : Except ε α) = .ok (image value) := rfl

theorem forM_eq_ok {values : List α} {action : α → Except ε Unit} :
    values.forM action = .ok () ↔ ∀ value ∈ values, action value = .ok () := by
  induction values with
  | nil => simp [pure, Except.pure]
  | cons value rest ih =>
      simp only [List.forM_eq_forM] at ih ⊢
      simp only [List.forM_cons, bind_eq_ok, ih, List.mem_cons, forall_eq_or_imp]
      constructor
      · intro steps
        rcases steps with ⟨_, first, others⟩
        exact ⟨first, others⟩
      · intro both
        rcases both with ⟨first, others⟩
        exact ⟨(), first, others⟩

end Results

/-! ## Errors -/

/-- The piece of input an error complains about. -/
inductive Unexpected where
  | bool (value : Bool)
  | int (value : Int)
  | float (value : F64)
  | str (value : String)
  | unit
  | seq
  | map

/-- One part of a formatted message: text as it stands, or a string to be printed
with `{:?}`. -/
inductive Piece where
  | text (value : String)
  | debug (value : String)

/-- A formatted message whose `{:?}` arguments are not printed yet. -/
abbrev Message := List Piece

/-- `serde::de::Error`, one constructor for each way to build one. -/
inductive DeError where
  | custom (message : Message)
  | invalidType (unexpected : Unexpected) (expected : String)
  | invalidValue (unexpected : Unexpected) (expected : String)
  | invalidLength (length : Nat) (expected : String)
  | unknownVariant (variant : String) (expected : List String)
  | unknownField (field : String) (expected : List String)
  | missingField (field : String)

/-- The printers of the standard library whose tables are not modelled: `{:?}` of
a string and the shortest decimal form of a double. -/
structure Formatter where
  debug : String → String
  float : F64 → String

/-- Print a message. -/
def Message.render (format : Formatter) (message : Message) : String :=
  String.join (message.map fun
    | .text value => value
    | .debug value => format.debug value)

/-- A name between backquotes. -/
def quoted (name : String) : String := "`" ++ name ++ "`"

/-- The names a reader would have accepted. -/
def oneOf : List String → String
  | [] => ""
  | [name] => quoted name
  | [first, second] => quoted first ++ " or " ++ quoted second
  | names => "one of " ++ ", ".intercalate (names.map quoted)

def Unexpected.display (format : Formatter) : Unexpected → String
  | .bool value => "boolean " ++ quoted (toString value)
  | .int value => "integer " ++ quoted (toString value)
  | .float value => "floating point " ++ quoted (format.float value)
  | .str value => "string " ++ format.debug value
  | .unit => "null"
  | .seq => "sequence"
  | .map => "map"

/-- The text `serde_json` prints for an error that carries no position. -/
def DeError.display (format : Formatter) : DeError → String
  | .custom message => message.render format
  | .invalidType unexpected expected =>
      "invalid type: " ++ unexpected.display format ++ ", expected " ++ expected
  | .invalidValue unexpected expected =>
      "invalid value: " ++ unexpected.display format ++ ", expected " ++ expected
  | .invalidLength length expected =>
      "invalid length " ++ toString length ++ ", expected " ++ expected
  | .unknownVariant variant expected =>
      "unknown variant " ++ quoted variant ++
        (if expected.isEmpty then ", there are no variants" else ", expected " ++ oneOf expected)
  | .unknownField field expected =>
      "unknown field " ++ quoted field ++
        (if expected.isEmpty then ", there are no fields" else ", expected " ++ oneOf expected)
  | .missingField field => "missing field " ++ quoted field

/-- What an error reports a value as. -/
def Json.unexpected (value : Json) : Unexpected :=
  match value.view with
  | .null => .unit
  | .bool value => .bool value
  | .number (.int value) => .int value.1
  | .number (.float value) => .float value
  | .string value => .str value
  | .array _ => .seq
  | .object _ => .map

/-- The error for a value of another shape. -/
def mismatch {α : Type} (value : Json) (expected : String) : Except DeError α :=
  .error (.invalidType value.unexpected expected)

/-! ## The two traits -/

/-- What drives a deserializer: a JSON value, or the buffered copy of one. -/
inductive Source where
  | value
  | content
  deriving DecidableEq

/-- `serde::Serialize` into `serde_json::Value`.  No implementation of this
development can fail. -/
class Serialize (α : Type) where
  toValue : α → Json

/-- `serde::Deserialize` from `serde_json::Value`.  `absent` is what deserializing
from a field that is not there gives, when it gives a value at all. -/
class Deserialize (α : Type) where
  fromSource : Source → Json → Except DeError α
  absent : Option α := none

export Serialize (toValue)
export Deserialize (fromSource)

/-- `serde_json::from_value`. -/
def fromValue {α : Type} [Deserialize α] (value : Json) : Except DeError α :=
  fromSource .value value

/-- Deserialization undoes serialization, under either driver. -/
class LawfulSerde (α : Type) [Serialize α] [Deserialize α] : Prop where
  fromSource_toValue (source : Source) (value : α) :
    fromSource source (toValue value) = .ok value

/-- No value of the type is written as `null`. -/
class NeverNull (α : Type) [Serialize α] : Prop where
  toValue_ne_null (value : α) : toValue value ≠ .null

attribute [simp] LawfulSerde.fromSource_toValue NeverNull.toValue_ne_null

theorem fromValue_toValue {α : Type} [Serialize α] [Deserialize α] [LawfulSerde α]
    (value : α) : fromValue (toValue value) = .ok value :=
  LawfulSerde.fromSource_toValue .value value

/-! ## Booleans, strings and raw values -/

instance : Serialize Bool := ⟨.bool⟩

instance : Deserialize Bool where
  fromSource _ value :=
    match value.view with
    | .bool value => .ok value
    | _ => mismatch value "a boolean"

instance : LawfulSerde Bool := ⟨fun _ _ => rfl⟩
instance : NeverNull Bool := ⟨fun _ => nofun⟩

instance : Serialize String := ⟨.string⟩

instance : Deserialize String where
  fromSource _ value :=
    match value.view with
    | .string value => .ok value
    | _ => mismatch value "a string"

instance : LawfulSerde String := ⟨fun _ _ => rfl⟩
instance : NeverNull String := ⟨fun _ => nofun⟩

instance : Serialize Json := ⟨id⟩
instance : Deserialize Json where fromSource _ := .ok

instance : LawfulSerde Json := ⟨fun _ _ => rfl⟩

theorem fromSource_string_eq_ok {source : Source} {value : Json} {text : String} :
    fromSource source value = .ok text ↔ value = .string text := by
  constructor
  · intro accepted
    cases value <;> simp_all [fromSource, mismatch]
  · intro same
    subst same
    rfl

/-! ## Machine integers -/

/-- The reader of an integer type: a number that is an integer of the type. -/
def intFrom {α : Type} (name : String) (ofInt? : Int → Option α) (value : Json) :
    Except DeError α :=
  match value.view with
  | .number (.int number) =>
      match ofInt? number.1 with
      | some result => .ok result
      | none => .error (.invalidValue (.int number.1) name)
  | _ => mismatch value name

theorem intFrom_int {α : Type} {name : String} {ofInt? : Int → Option α}
    {number : WireInt} {result : α} (inRange : ofInt? number.1 = some result) :
    intFrom name ofInt? (.number (.int number)) = .ok result := by
  simp [intFrom, inRange]

/-- An unsigned machine integer of at most 64 bits. -/
class Unsigned (α : Type) where
  name : String
  size : Nat
  toNat : α → Nat
  ofNat : Nat → α
  size_le : size ≤ 2 ^ 64
  toNat_lt (value : α) : toNat value < size
  ofNat_toNat (value : α) : ofNat (toNat value) = value

namespace Unsigned

variable {α : Type} [Unsigned α]

/-- The JSON number of an unsigned integer. -/
def toWireInt (value : α) : WireInt :=
  ⟨toNat value, by omega, by
    have bounded := Nat.lt_of_lt_of_le (toNat_lt value) size_le
    omega⟩

/-- The integer `number` as a value of the type. -/
def ofInt? (number : Int) : Option α :=
  if 0 ≤ number ∧ number.toNat < size α then some (ofNat number.toNat) else none

theorem ofInt?_toWireInt (value : α) : ofInt? (toWireInt value).1 = some value := by
  simp [ofInt?, toWireInt, toNat_lt, ofNat_toNat]

instance : Serialize α := ⟨fun value => .number (.int (toWireInt value))⟩
instance : Deserialize α := { fromSource := fun _ => intFrom (name α) ofInt? }

/-- Only a number that is not negative is read as an unsigned integer. -/
theorem exists_number {source : Source} {json : Json} {value : α}
    (read : fromSource source json = .ok value) :
    ∃ number : WireInt, json = .number (.int number) ∧ 0 ≤ number.1 := by
  cases json with
  | number number =>
      cases number with
      | int number =>
          refine ⟨number, rfl, ?_⟩
          by_contra negative
          simp [fromSource, intFrom, ofInt?, negative] at read
      | float _ => simp [fromSource, intFrom, mismatch] at read
  | _ => simp [fromSource, intFrom, mismatch] at read

instance : LawfulSerde α := ⟨fun _ value => intFrom_int (ofInt?_toWireInt value)⟩
instance : NeverNull α := ⟨fun _ => nofun⟩

end Unsigned

instance : Unsigned UInt64 where
  name := "u64"
  size := 2 ^ 64
  toNat := UInt64.toNat
  ofNat := UInt64.ofNat
  size_le := le_refl _
  toNat_lt := UInt64.toNat_lt
  ofNat_toNat _ := UInt64.ofNat_toNat

instance : Unsigned UInt32 where
  name := "u32"
  size := 2 ^ 32
  toNat := UInt32.toNat
  ofNat := UInt32.ofNat
  size_le := by decide
  toNat_lt := UInt32.toNat_lt
  ofNat_toNat _ := UInt32.ofNat_toNat

instance : Unsigned UInt16 where
  name := "u16"
  size := 2 ^ 16
  toNat := UInt16.toNat
  ofNat := UInt16.ofNat
  size_le := by decide
  toNat_lt := UInt16.toNat_lt
  ofNat_toNat _ := UInt16.ofNat_toNat

/-- The integer `number` as an `i64`. -/
def int64? (number : Int) : Option Int64 :=
  if -2 ^ 63 ≤ number ∧ number < 2 ^ 63 then some (Int64.ofInt number) else none

theorem int64?_toInt (value : Int64) : int64? value.toInt = some value := by
  have bounds := And.intro value.le_toInt value.toInt_lt
  rw [int64?, if_pos bounds, Int64.ofInt_toInt]

instance : Serialize Int64 where
  toValue value := .number (.int ⟨value.toInt, value.le_toInt,
    lt_trans value.toInt_lt (by decide)⟩)

instance : Deserialize Int64 where
  fromSource _ := intFrom "i64" int64?

instance : LawfulSerde Int64 := ⟨fun _ value => intFrom_int (int64?_toInt value)⟩
instance : NeverNull Int64 := ⟨fun _ => nofun⟩

theorem int64?_eq_some_iff {number : Int} {value : Int64} :
    int64? number = some value ↔ number = value.toInt := by
  constructor
  · intro taken
    rw [int64?] at taken
    split at taken
    next inRange =>
      cases taken
      rw [Int64.toInt_ofInt_of_le inRange.1 inRange.2]
    next => cases taken
  · intro same
    subst same
    exact int64?_toInt value

/-- Only the integer itself is read as a signed integer. -/
theorem fromSource_int64_eq_ok {source : Source} {json : Json} {value : Int64} :
    fromSource source json = .ok value ↔ json = toValue value := by
  constructor
  · intro read
    cases json with
    | number number =>
        cases number with
        | int number =>
            simp only [fromSource, intFrom, Json.view_number] at read
            split at read
            next integer taken =>
              cases read
              have same := int64?_eq_some_iff.mp taken
              simp only [toValue, ← same]
            next => cases read
        | float => simp [fromSource, intFrom, mismatch] at read
    | _ => simp [fromSource, intFrom, mismatch] at read
  · intro same
    subst same
    exact LawfulSerde.fromSource_toValue source value

/-! ## Options and vectors -/

instance {α : Type} [Serialize α] : Serialize (Option α) where
  toValue
    | none => .null
    | some value => toValue value

instance {α : Type} [Deserialize α] : Deserialize (Option α) where
  fromSource source value :=
    match value.view with
    | .null => .ok none
    | _ => some <$> fromSource source value
  absent := some none

@[simp] theorem toValue_none {α : Type} [Serialize α] : toValue (none : Option α) = .null := rfl
@[simp] theorem toValue_some {α : Type} [Serialize α] (value : α) :
    toValue (some value) = toValue value := rfl

theorem fromSource_option_of_ne_null {α : Type} [Deserialize α] (source : Source)
    {value : Json} (present : value ≠ .null) :
    fromSource source value = (some <$> fromSource source value : Except DeError (Option α)) := by
  cases value with
  | null => contradiction
  | _ => simp [fromSource]

/-- Only `null` reads as nothing. -/
theorem fromSource_option_eq_none {α : Type} [Deserialize α] {source : Source} {value : Json} :
    fromSource source value = (.ok none : Except DeError (Option α)) ↔ value = .null := by
  constructor
  · intro read
    by_contra present
    rw [fromSource_option_of_ne_null source present] at read
    rcases map_eq_ok.mp read with ⟨_, _, ⟨⟩⟩
  · intro same
    subst same
    rfl

instance {α : Type} [Serialize α] [Deserialize α] [LawfulSerde α] [NeverNull α] :
    LawfulSerde (Option α) where
  fromSource_toValue source value := by
    cases value with
    | none => rfl
    | some value =>
        rw [toValue_some, fromSource_option_of_ne_null source (NeverNull.toValue_ne_null value),
          LawfulSerde.fromSource_toValue]
        rfl

instance {α : Type} [Serialize α] : Serialize (List α) where
  toValue values := .array (values.map toValue)

instance {α : Type} [Deserialize α] : Deserialize (List α) where
  fromSource source value :=
    match value.view with
    | .array elements => elements.mapM (fromSource source)
    | _ => mismatch value "a sequence"

instance {α : Type} [Serialize α] [Deserialize α] [LawfulSerde α] : LawfulSerde (List α) where
  fromSource_toValue source values := by
    simp only [fromSource, toValue, Json.view_array]
    induction values with
    | nil => rfl
    | cons value rest ih =>
        rw [List.map_cons, List.mapM_cons, LawfulSerde.fromSource_toValue, ih]
        rfl

instance {α : Type} [Serialize α] : NeverNull (List α) := ⟨fun _ => nofun⟩

-- shortcuts for the types of fields that are in most structs
instance : LawfulSerde (Option UInt64) := inferInstance
instance : LawfulSerde (Option UInt32) := inferInstance
instance : LawfulSerde (Option (List String)) := inferInstance

end Serde
