import ControlInterface.Serde.BTreeMap
import Mathlib.Algebra.Order.Ring.Int

/-!
# JSON values

The value tree of `serde_json` (`Value`, `Number` and `Map`, in the default
configuration: no arbitrary precision, and objects ordered by key).  A number out
of the range of `u64` and `i64`, an infinite float and an object with a repeated
or misplaced key cannot be built.
-/

namespace Serde

/-- A finite double, by its bits.  Nothing computes with it: a float is carried
along, and refused where an integer is wanted. -/
structure F64 where
  bits : UInt64
  finite : (bits >>> 52) &&& 0x7ff ≠ 0x7ff
  deriving DecidableEq

/-- The integers a JSON number holds exactly: those of `u64` and of `i64`. -/
abbrev WireInt := { value : Int // -2 ^ 63 ≤ value ∧ value < 2 ^ 64 }

/-- `serde_json::Number`. -/
inductive Number where
  | int (value : WireInt)
  | float (value : F64)
  deriving DecidableEq

/-- The keys of an object, in increasing order. -/
abbrev ObjectKeys := { keys : List String // keys.Pairwise (· < ·) }

/-- `serde_json::Value`.  The last constructor holds an object as its keys and the
member under each of them; `Json.object` builds one from a map and `Json.view`
reads it back, and nothing else looks at the representation. -/
inductive Json where
  | null
  | bool (value : Bool)
  | number (value : Number)
  | string (value : String)
  | array (elements : List Json)
  | objectOf (keys : ObjectKeys) (members : Fin keys.1.length → Json)

/-- `serde_json::Map<String, Value>`. -/
abbrev JsonMap := BTreeMap String Json

namespace Json

/-- The object with the given members. -/
def object (map : JsonMap) : Json :=
  .objectOf ⟨map.keys, List.pairwise_map.mpr map.sorted⟩
    fun index => (map.entries.get ⟨index.1, by simpa [BTreeMap.keys] using index.2⟩).2

/-- The six shapes of a JSON value. -/
inductive View where
  | null
  | bool (value : Bool)
  | number (value : Number)
  | string (value : String)
  | array (elements : List Json)
  | object (map : JsonMap)

/-- The members of an object, as a map. -/
def membersMap (keys : ObjectKeys) (members : Fin keys.1.length → Json) : JsonMap where
  entries := List.ofFn fun index => (keys.1[index], members index)
  sorted := by
    rw [List.pairwise_ofFn]
    intro left right less
    exact List.pairwise_iff_getElem.mp keys.2 _ _ left.2 right.2 less

/-- The shape of a value. -/
def view : Json → View
  | .null => .null
  | .bool value => .bool value
  | .number value => .number value
  | .string value => .string value
  | .array elements => .array elements
  | .objectOf keys members => .object (membersMap keys members)

@[simp] theorem view_null : Json.null.view = .null := rfl
@[simp] theorem view_bool (value : Bool) : (Json.bool value).view = .bool value := rfl
@[simp] theorem view_number (value : Number) : (Json.number value).view = .number value := rfl
@[simp] theorem view_string (value : String) : (Json.string value).view = .string value := rfl
@[simp] theorem view_array (elements : List Json) :
    (Json.array elements).view = .array elements := rfl

@[simp] theorem view_object (map : JsonMap) : (Json.object map).view = .object map := by
  simp only [object, view, View.object.injEq]
  apply BTreeMap.ext
  simp only [membersMap]
  apply List.ext_getElem
  · simp [BTreeMap.keys]
  · intro index inLeft inRight
    simp [BTreeMap.keys]

private theorem objectOf_congr {left right : ObjectKeys}
    {leftMembers : Fin left.1.length → Json} {rightMembers : Fin right.1.length → Json}
    (keys : left.1 = right.1)
    (members : ∀ index inLeft inRight,
      leftMembers ⟨index, inLeft⟩ = rightMembers ⟨index, inRight⟩) :
    Json.objectOf left leftMembers = .objectOf right rightMembers := by
  rcases left with ⟨left, _⟩
  rcases right with ⟨right, _⟩
  cases keys
  congr
  funext index
  exact members index.1 index.2 index.2

theorem object_membersMap (keys : ObjectKeys) (members : Fin keys.1.length → Json) :
    object (membersMap keys members) = .objectOf keys members := by
  apply objectOf_congr
  · apply List.ext_getElem <;> simp [membersMap, BTreeMap.keys]
  · intro index inLeft inRight
    simp [membersMap]

/-- Every value is of one of the six shapes. -/
@[elab_as_elim, cases_eliminator]
theorem casesView {motive : Json → Prop} (null : motive .null)
    (bool : ∀ value, motive (.bool value)) (number : ∀ value, motive (.number value))
    (string : ∀ value, motive (.string value)) (array : ∀ elements, motive (.array elements))
    (object : ∀ map, motive (.object map)) (value : Json) : motive value := by
  match value with
  | .null => exact null
  | .bool value => exact bool value
  | .number value => exact number value
  | .string value => exact string value
  | .array elements => exact array elements
  | .objectOf keys members => exact object_membersMap keys members ▸ object _

/-- The member of an object under a key. -/
def member (value : Json) (key : String) : Option Json :=
  match value.view with
  | .object map => map.get? key
  | _ => none

@[simp] theorem member_object (map : JsonMap) (key : String) :
    (object map).member key = map.get? key := by
  simp only [member, view_object]

/-- The value is `null`. -/
def isNull (value : Json) : Bool :=
  match value.view with
  | .null => true
  | _ => false

theorem isNull_iff {value : Json} : value.isNull = true ↔ value = .null := by
  cases value with
  | null => simp [isNull]
  | object map =>
      simp only [isNull, view_object, Bool.false_eq_true, false_iff]
      exact nofun
  | _ => simp [isNull]

end Json

end Serde
