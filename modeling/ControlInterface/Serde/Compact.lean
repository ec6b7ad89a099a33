import ControlInterface.Serde.Struct
import ControlInterface.Text.Hex
import Mathlib

/-!
# Compact text

The text `serde_json` writes a value as, without any white space, and how many bytes
it takes.  The size of a composite value is the sum of the sizes of its parts, so it
does not depend on the order in which members are written.
-/

namespace Serde

open Text

/-! ## Writing -/

/-- The characters one character of a string literal is written as. -/
def escape (char : Char) : List Char :=
  match char with
  | '"' => ['\\', '"']
  | '\\' => ['\\', '\\']
  | '\x08' => ['\\', 'b']
  | '\t' => ['\\', 't']
  | '\n' => ['\\', 'n']
  | '\x0c' => ['\\', 'f']
  | '\r' => ['\\', 'r']
  | _ =>
      if char.toNat < 0x20 then
        ['\\', 'u', '0', '0', hexChar (char.toNat / 16), hexChar (char.toNat % 16)]
      else [char]

/-- A string literal. -/
def literal (text : String) : String :=
  "\"" ++ String.ofList (text.toList.flatMap escape) ++ "\""

mutual

/-- `serde_json::to_string` of a value.  The text of a float is left to the caller. -/
def Json.compact (float : F64 → String) : Json → String
  | .null => "null"
  | .bool value => toString value
  | .number (.int value) => toString value.1
  | .number (.float value) => float value
  | .string value => literal value
  | .array elements => "[" ++ ",".intercalate (Json.compactAll float elements) ++ "]"
  | .objectOf keys members =>
      "\x7b" ++ ",".intercalate (List.ofFn fun index =>
        literal (keys.1.get index) ++ ":" ++ Json.compact float (members index)) ++ "\x7d"

def Json.compactAll (float : F64 → String) : List Json → List String
  | [] => []
  | value :: rest => Json.compact float value :: Json.compactAll float rest

end

/-- A member of an object. -/
def memberText (float : F64 → String) (entry : String × Json) : String :=
  literal entry.1 ++ ":" ++ entry.2.compact float

theorem Json.compactAll_eq (float : F64 → String) (values : List Json) :
    Json.compactAll float values = values.map (Json.compact float) := by
  induction values with
  | nil => rfl
  | cons value rest ih => rw [Json.compactAll, ih, List.map_cons]

theorem Json.compact_array (float : F64 → String) (elements : List Json) :
    (Json.array elements).compact float =
      "[" ++ ",".intercalate (elements.map (Json.compact float)) ++ "]" := by
  rw [Json.compact, Json.compactAll_eq]

theorem Json.compact_object (float : F64 → String) (map : JsonMap) :
    (Json.object map).compact float =
      "\x7b" ++ ",".intercalate (map.entries.map (memberText float)) ++ "\x7d" := by
  rw [Json.object, Json.compact]
  congr 3
  apply List.ext_getElem
  · simp [BTreeMap.keys]
  · intro index inLeft inRight
    simp [BTreeMap.keys, memberText]

/-! ## Plain strings -/

/-- The character stands for itself in a string literal. -/
def IsPlain (char : Char) : Prop := 0x20 ≤ char.toNat ∧ char ≠ '"' ∧ char ≠ '\\'

theorem escape_of_isPlain {char : Char} (plain : IsPlain char) : escape char = [char] := by
  rcases plain with ⟨printable, notQuote, notBackslash⟩
  unfold escape
  split
  next => exact absurd rfl notQuote
  next => exact absurd rfl notBackslash
  iterate 5
    next => exact absurd printable (by decide)
  next => rw [if_neg (Nat.not_lt.mpr printable)]

theorem literal_of_isPlain {text : String} (plain : ∀ char ∈ text.toList, IsPlain char) :
    literal text = "\"" ++ text ++ "\"" := by
  have kept : text.toList.flatMap escape = text.toList := by
    calc text.toList.flatMap escape
        = text.toList.flatMap fun char => [char] :=
          List.flatMap_congr fun char member => escape_of_isPlain (plain char member)
      _ = text.toList := List.flatMap_singleton' _
  rw [literal, kept, String.ofList_toList]

theorem isPlain_of_hexDigit? {char : Char} {value : Nat} (digit : hexDigit? char = some value) :
    IsPlain char := by
  rw [hexDigit?_eq_some_iff] at digit
  refine ⟨by omega, ?_, ?_⟩
  · intro same
    subst same
    revert digit
    simp
  · intro same
    subst same
    revert digit
    simp

/-! ## Sizes -/

/-- The number of digits of a number in base ten. -/
def decimalLength (number : Nat) : Nat := (Nat.toDigits 10 number).length

/-- The bytes of a value as compact text. -/
def Json.size (float : F64 → String) (value : Json) : Nat := (value.compact float).utf8ByteSize

/-- The bytes of a member of an object. -/
def memberSize (float : F64 → String) (entry : String × Json) : Nat :=
  (literal entry.1).utf8ByteSize + 1 + entry.2.size float

/-- The bytes of parts of the given sizes with a comma between any two of them. -/
def joinedSize (sizes : List Nat) : Nat := sizes.sum + (sizes.length - 1)

theorem utf8ByteSize_intercalate (texts : List String) :
    (",".intercalate texts).utf8ByteSize = joinedSize (texts.map String.utf8ByteSize) := by
  induction texts with
  | nil => rfl
  | cons text rest ih =>
      cases rest with
      | nil => simp [joinedSize]
      | cons next others =>
          rw [String.intercalate_cons_cons, String.utf8ByteSize_append,
            String.utf8ByteSize_append, ih]
          simp only [joinedSize, List.map_cons, List.sum_cons, List.length_cons,
            List.length_map, Nat.add_sub_cancel]
          rw [show (",").utf8ByteSize = 1 from rfl]
          ring

/-- The order of the parts does not matter. -/
theorem joinedSize_perm {left right : List Nat} (same : left.Perm right) :
    joinedSize left = joinedSize right := by
  rw [joinedSize, joinedSize, same.sum_nat, same.length_eq]

/-- Each part takes a comma as well, but for the last. -/
theorem joinedSize_add_one {sizes : List Nat} (nonempty : sizes ≠ []) :
    joinedSize sizes + 1 = (sizes.map (· + 1)).sum := by
  have counted : (sizes.map (· + 1)).sum = sizes.sum + sizes.length := by
    rw [List.sum_map_add, List.map_id', List.map_const', List.sum_replicate_nat, Nat.mul_one]
  have positive := List.length_pos_of_ne_nil nonempty
  rw [counted, joinedSize]
  omega

/-- A text between two ASCII characters. -/
theorem utf8ByteSize_enclosed {left right : String} (leftSize : left.utf8ByteSize = 1)
    (rightSize : right.utf8ByteSize = 1) (text : String) :
    (left ++ text ++ right).utf8ByteSize = text.utf8ByteSize + 2 := by
  rw [String.utf8ByteSize_append, String.utf8ByteSize_append, leftSize, rightSize]
  omega

theorem size_array (float : F64 → String) (elements : List Json) :
    (Json.array elements).size float = joinedSize (elements.map (Json.size float)) + 2 := by
  rw [Json.size, Json.compact_array, utf8ByteSize_enclosed rfl rfl, utf8ByteSize_intercalate,
    List.map_map]
  rfl

theorem size_object (float : F64 → String) (map : JsonMap) :
    (Json.object map).size float = joinedSize (map.entries.map (memberSize float)) + 2 := by
  have members : (map.entries.map (memberText float)).map String.utf8ByteSize =
      map.entries.map (memberSize float) := by
    rw [List.map_map]
    apply List.map_congr_left
    intro entry _
    simp only [Function.comp, memberText, memberSize, Json.size, String.utf8ByteSize_append]
    rfl
  rw [Json.size, Json.compact_object, utf8ByteSize_enclosed rfl rfl, utf8ByteSize_intercalate,
    members]

theorem size_ofList (float : F64 → String) {entries : List (String × Json)}
    (distinct : (entries.map Prod.fst).Nodup) :
    (Json.object (.ofList entries)).size float =
      joinedSize (entries.map (memberSize float)) + 2 := by
  rw [size_object, joinedSize_perm ((BTreeMap.ofList_perm distinct).map _)]

namespace Fields

variable {types : List Type}

theorem keys_entries (fields : Fields SerField types) (values : Tuple types) :
    ((fields.entries values).map Prod.fst).Sublist fields.written := by
  induction fields with
  | nil => exact .slnil
  | cons field rest ih =>
      simp only [entries, written]
      split
      · exact (ih values.2).cons _
      · exact (ih values.2).cons_cons _

end Fields

/-- The size of a struct, from its members in the order they are declared in. -/
theorem size_struct (float : F64 → String) {S : Type} [SerStruct S] (value : S) :
    (toValue value).size float =
      joinedSize ((SerStruct.fields.entries (SerStruct.toTuple value)).map (memberSize float)) +
        2 :=
  size_ofList float (SerStruct.distinct.sublist (Fields.keys_entries _ _))

theorem size_string (float : F64 → String) {text : String}
    (plain : ∀ char ∈ text.toList, IsPlain char) :
    (Json.string text).size float = text.utf8ByteSize + 2 := by
  rw [Json.size, Json.compact, literal_of_isPlain plain, utf8ByteSize_enclosed rfl rfl]

theorem utf8ByteSize_repr (number : Nat) : number.repr.utf8ByteSize = decimalLength number := by
  rw [Text.utf8ByteSize_of_ascii, Nat.toList_repr, decimalLength]
  intro char member
  rw [Nat.toList_repr] at member
  have digit := Nat.isDigit_of_mem_toDigits (by decide) (by decide) member
  simp only [Char.isDigit, Bool.and_eq_true, decide_eq_true_eq] at digit
  exact UInt32.lt_of_le_of_lt digit.2 (show '9'.val < 0x80 by decide)

theorem size_unsigned (float : F64 → String) {α : Type} [Unsigned α] (value : α) :
    (toValue value).size float = decimalLength (Unsigned.toNat value) :=
  utf8ByteSize_repr _

end Serde
