import ControlInterface.Error
import ControlInterface.Text.Hex
import Mathlib.Data.List.Forall2
import Mathlib.Data.Option.Basic

/-!
# Reading params

What the params types of the catalog share: the third-party code they call, the
normalization of hexadecimal ids, and the types that validate themselves while they
are deserialized.
-/

namespace ControlInterface

open Serde Text

/-! ## Third-party code -/

/-- The code outside the repository that a node's answer depends on. -/
structure Environment where
  formatter : Formatter
  /-- `url::Url::parse`: nothing for a text it refuses, else the host of the url. -/
  urlParse : String → Option (Option String)

/-! ## Results with different errors -/

/-- `Option::ok_or` -/
def okOr {ε α : Type} (error : ε) : Option α → Except ε α
  | some value => .ok value
  | none => .error error

/-- `Result::map_err` -/
def mapErr {ε δ α : Type} (image : ε → δ) : Except ε α → Except δ α
  | .ok value => .ok value
  | .error error => .error (image error)

section Agreement

variable {ε δ α β : Type}

theorem okOr_eq_ok_iff {error : ε} {option : Option α} {value : α} :
    okOr error option = .ok value ↔ option = some value := by
  cases option <;> simp [okOr]

theorem mapErr_eq_ok_iff {image : ε → δ} {result : Except ε α} {value : α} :
    mapErr image result = .ok value ↔ result = .ok value := by
  cases result <;> simp [mapErr]

/-- Every element has a result, and these are the results in order. -/
theorem list_mapM_eq_ok_iff {read : α → Except ε β} {values : List α} {results : List β} :
    values.mapM read = .ok results ↔
      List.Forall₂ (fun value result => read value = .ok result) values results := by
  induction values generalizing results with
  | nil =>
      rw [List.mapM_nil, List.forall₂_nil_left_iff]
      exact ⟨fun same => (Except.ok.inj same).symm, fun same => congrArg Except.ok same.symm⟩
  | cons value rest ih =>
      simp only [List.mapM_cons, bind_eq_ok, ih, pure, Except.pure, Except.ok.injEq,
        List.forall₂_cons_left_iff]
      constructor
      · intro steps
        rcases steps with ⟨result, readFirst, results, readRest, rfl⟩
        exact ⟨result, results, readFirst, readRest, rfl⟩
      · intro pointwise
        rcases pointwise with ⟨result, results, readFirst, readRest, rfl⟩
        exact ⟨result, readFirst, results, readRest, rfl⟩

/-- `Option::map` and `Option::transpose` -/
def mapTranspose (read : α → Except ε β) : Option α → Except ε (Option β)
  | none => .ok none
  | some value => some <$> read value

theorem mapTranspose_eq_ok_iff {read : α → Except ε β} {option : Option α} {result : Option β} :
    mapTranspose read option = .ok result ↔
      Option.Rel (fun value result => read value = .ok result) option result := by
  cases option with
  | none =>
      cases result with
      | none => exact ⟨fun _ => .none, fun _ => rfl⟩
      | some result => exact ⟨nofun, nofun⟩
  | some value =>
      rw [mapTranspose, map_eq_ok]
      constructor
      · intro mapped
        rcases mapped with ⟨image, taken, rfl⟩
        exact .some taken
      · intro related
        cases related with
        | some taken => exact ⟨_, taken, rfl⟩

end Agreement

/-! ## Hexadecimal ids -/

/-- The byte is one of `0` to `9` and `a` to `f`. -/
def isLowerHexByte (byte : UInt8) : Bool :=
  decide (0x30 ≤ byte ∧ byte ≤ 0x39) || decide (0x61 ≤ byte ∧ byte ≤ 0x66)

/-- The text without a leading `0x`, if it then is a given number of lowercase
hexadecimal digits. -/
def normalizeHex (length : Nat) (text : String) : Option String :=
  let normalized := unprefixed text
  if (Text.bytes normalized).length = length ∧ (Text.bytes normalized).all isLowerHexByte then
    some normalized
  else none

/-- The text is a given number of lowercase hexadecimal digits, without a prefix. -/
def CanonicalHex (length : Nat) (text : String) : Prop :=
  text.toList.length = length ∧ ∀ char ∈ text.toList, IsLowerHex char

instance (length : Nat) (text : String) : Decidable (CanonicalHex length text) :=
  inferInstanceAs (Decidable (_ ∧ _))

theorem isLowerHexByte_iff {byte : UInt8} :
    isLowerHexByte byte = true ↔
      (48 ≤ byte.toNat ∧ byte.toNat ≤ 57) ∨ (97 ≤ byte.toNat ∧ byte.toNat ≤ 102) := by
  simp [isLowerHexByte, UInt8.le_iff_toNat_le]

/-- The byte test is the test for lowercase digits. -/
theorem forall_isLowerHexByte_iff {text : String} :
    (∀ byte ∈ Text.bytes text, isLowerHexByte byte = true) ↔
      ∀ char ∈ text.toList, IsLowerHex char := by
  rw [forall_bytes_iff fun byte lower => by
    rw [isLowerHexByte_iff] at lower
    simp only [UInt8.lt_iff_toNat_lt, UInt8.reduceToNat]
    omega]
  apply forall₂_congr
  intro char _
  rw [isLowerHexByte_iff, isLowerHex_iff]
  constructor
  · intro both
    rcases both with ⟨ascii, lower⟩
    rwa [byte_toNat ascii] at lower
  · intro lower
    have ascii : IsAscii char := by
      simp only [IsAscii, UInt32.lt_iff_toNat_lt, Char.toNat_val, UInt32.reduceToNat]
      omega
    rw [byte_toNat ascii]
    exact ⟨ascii, lower⟩

theorem normalizeHex_eq_some_iff {length : Nat} {text canonical : String} :
    normalizeHex length text = some canonical ↔
      unprefixed text = canonical ∧ CanonicalHex length canonical := by
  simp only [normalizeHex, List.all_eq_true, forall_isLowerHexByte_iff,
    Option.ite_none_right_eq_some, Option.some.injEq]
  constructor
  · intro checked
    rcases checked with ⟨⟨size, lower⟩, rfl⟩
    have ascii := fun char member => (lower char member).isAscii
    rw [bytes_of_ascii ascii, List.length_map] at size
    exact ⟨rfl, size, lower⟩
  · intro canonical
    rcases canonical with ⟨rfl, size, lower⟩
    have ascii := fun char member => (lower char member).isAscii
    rw [bytes_of_ascii ascii, List.length_map]
    exact ⟨⟨size, lower⟩, rfl⟩

/-- A canonical text is its own normal form. -/
theorem normalizeHex_canonical {length : Nat} {text : String}
    (canonical : CanonicalHex length text) :
    normalizeHex length text = some text :=
  normalizeHex_eq_some_iff.mpr ⟨unprefixed_of_isLowerHex canonical.2, canonical⟩

/-- What normalization returns is canonical, and normalizes to itself. -/
theorem normalizeHex_idem {length : Nat} {text canonical : String}
    (normalized : normalizeHex length text = some canonical) :
    CanonicalHex length canonical ∧ normalizeHex length canonical = some canonical :=
  have isCanonical := (normalizeHex_eq_some_iff.mp normalized).2
  ⟨isCanonical, normalizeHex_canonical isCanonical⟩

def coinIdHexLen : Nat := 64

def normalizeCoinId : String → Option String := normalizeHex coinIdHexLen

def publicKeyHexLen : Nat := 96

def normalizePublicKey : String → Option String := normalizeHex publicKeyHexLen

/-! ## Types that validate themselves -/

/-- How a check turns down a value while it is deserialized. -/
def refused (message : String) : DeError := .custom [.text message]

/-- How a validating constructor turns down a value. -/
def invalid (message : String) : ControlError := .of .invalidParams message

/-- The error is one that turns down params. -/
def IsRefusal (error : ControlError) : Prop := ∃ message, error = invalid message

/-- A params type that checks its fields in two places: while it is deserialized, and
in its validating constructor.  Both accept the same fields and give the same value,
which satisfies the contract of the type and is accepted again unchanged. -/
class SelfValidating (S : Type) extends ShadowStruct S where
  ofTuple : Tuple types → S
  validated : S → Except ControlError S
  Contract : S → Prop
  toTuple_ofTuple (raw : Tuple types) : toTuple (ofTuple raw) = raw
  check_eq_ok_iff {params result : S} :
    check (toTuple params) = .ok result ↔ validated params = .ok result
  validated_idem {params result : S} :
    validated params = .ok result → validated result = .ok result
  contract {params result : S} : validated params = .ok result → Contract result

/-! ## Types without fields -/

/-- A params type without fields (`no_params!`). -/
class EmptyStruct (S : Type) where
  name : String
  value : S
  only (other : S) : value = other

instance {S : Type} [EmptyStruct S] : DeriveStruct S where
  name := EmptyStruct.name S
  types := []
  fields := .nil
  equiv := ⟨fun _ => (), fun _ => EmptyStruct.value, EmptyStruct.only, fun _ => rfl⟩

end ControlInterface
