import ControlInterface.Serde.Struct
import ControlInterface.Text.Hex
import Mathlib.Data.List.Induction

/-!
# Assets

The asset a wallet read is about: XCH, or a CAT by its 32-byte asset id.  $DIG has
a spelling of its own on the wire and none in the type, so that it has one
identity.
-/

namespace ControlInterface

open Serde Text

/-! ## Asset ids -/

/-- The number of hexadecimal digits of an asset id. -/
def assetIdHexLen : Nat := 64

/-- A 32-byte asset id. -/
structure AssetId where
  bytes : List UInt8
  size : bytes.length = 32
  deriving DecidableEq

inductive AssetIdParseError where
  | wrongLength (got : Nat)
  | notHex
  deriving DecidableEq

def AssetIdParseError.display : AssetIdParseError → String
  | .wrongLength got =>
      "asset id must be " ++ toString assetIdHexLen ++ " hex characters, got " ++ toString got
  | .notHex => "asset id contains a non-hexadecimal character"

/-- The value of a hexadecimal digit, given as a byte. -/
def decodeHexDigit (char : UInt8) : Except AssetIdParseError UInt8 :=
  if 0x30 ≤ char ∧ char ≤ 0x39 then .ok (char - 0x30)
  else if 0x61 ≤ char ∧ char ≤ 0x66 then .ok (char - 0x61 + 10)
  else if 0x41 ≤ char ∧ char ≤ 0x46 then .ok (char - 0x41 + 10)
  else .error .notHex

theorem decodeHexDigit_eq_ok_iff {char value : UInt8} :
    decodeHexDigit char = .ok value ↔
      (48 ≤ char.toNat ∧ char.toNat ≤ 57 ∧ value.toNat = char.toNat - 48) ∨
        (97 ≤ char.toNat ∧ char.toNat ≤ 102 ∧ value.toNat = char.toNat - 87) ∨
          (65 ≤ char.toNat ∧ char.toNat ≤ 70 ∧ value.toNat = char.toNat - 55) := by
  simp only [decodeHexDigit, UInt8.le_iff_toNat_le, UInt8.reduceToNat]
  split
  · simp [← UInt8.toNat_inj, UInt8.toNat_sub_of_le, UInt8.le_iff_toNat_le, *]
    grind
  split
  · simp [← UInt8.toNat_inj, UInt8.toNat_sub_of_le, UInt8.le_iff_toNat_le, *]
    grind
  split
  · simp [← UInt8.toNat_inj, UInt8.toNat_sub_of_le, UInt8.le_iff_toNat_le, *]
    grind
  · simp only [reduceCtorEq, false_iff]
    omega

theorem decodeHexDigit_bounds {char value : UInt8} (decoded : decodeHexDigit char = .ok value) :
    char < 0x80 ∧ value.toNat < 16 := by
  rw [decodeHexDigit_eq_ok_iff] at decoded
  simp only [UInt8.lt_iff_toNat_lt, UInt8.reduceToNat]
  omega

/-- On an ASCII character the byte reader is the reader of digits. -/
theorem decodeHexDigit_byte {char : Char} (ascii : IsAscii char) {value : UInt8} :
    decodeHexDigit (byte char) = .ok value ↔ hexDigit? char = some value.toNat := by
  rw [decodeHexDigit_eq_ok_iff, hexDigit?_eq_some_iff, byte_toNat ascii]

theorem exists_decodeHexDigit {char : Char} (digit : (hexDigit? char).isSome) :
    ∃ value, decodeHexDigit (byte char) = .ok value := by
  rcases Option.isSome_iff_exists.mp digit with ⟨value, isDigit⟩
  refine ⟨UInt8.ofNat value, (decodeHexDigit_byte (isAscii_of_hexDigit? isDigit)).mpr ?_⟩
  rw [isDigit, UInt8.toNat_ofNat_of_lt' (lt_trans (hexDigit?_lt isDigit) (by decide))]

/-- Two nibbles side by side. -/
theorem toNat_nibbles {high low : UInt8} (highSmall : high.toNat < 16)
    (lowSmall : low.toNat < 16) :
    ((high <<< 4) ||| low).toNat = high.toNat * 16 + low.toNat := by
  have small : high.toNat <<< 4 < 256 := by
    rw [Nat.shiftLeft_eq]
    omega
  simp only [UInt8.toNat_or, UInt8.toNat_shiftLeft, UInt8.reduceToNat, Nat.reduceMod]
  rw [Nat.mod_eq_of_lt small, ← Nat.shiftLeft_add_eq_or_of_lt (by omega), Nat.shiftLeft_eq]

/-- Read bytes from pairs of hexadecimal digits. -/
def decodePairs : List UInt8 → Except AssetIdParseError (List UInt8)
  | [] => .ok []
  | [_] => .ok []
  | high :: low :: rest => do
      let high ← decodeHexDigit high
      let low ← decodeHexDigit low
      let others ← decodePairs rest
      return ((high <<< 4) ||| low) :: others

theorem decodePairs_cons_eq_ok {high low : UInt8} {rest values : List UInt8} :
    decodePairs (high :: low :: rest) = .ok values ↔
      ∃ first second others, decodeHexDigit high = .ok first ∧ decodeHexDigit low = .ok second ∧
        decodePairs rest = .ok others ∧ values = ((first <<< 4) ||| second) :: others := by
  simp only [decodePairs, bind_eq_ok, pure, Except.pure, Except.ok.injEq]
  constructor
  · intro steps
    rcases steps with ⟨first, readFirst, second, readSecond, others, readOthers, rfl⟩
    exact ⟨first, second, others, readFirst, readSecond, readOthers, rfl⟩
  · intro pairs
    rcases pairs with ⟨first, second, others, readFirst, readSecond, readOthers, rfl⟩
    exact ⟨first, readFirst, second, readSecond, others, readOthers, rfl⟩

theorem decodePairs_length {chars values : List UInt8} (decoded : decodePairs chars = .ok values) :
    values.length = chars.length / 2 := by
  induction chars using decodePairs.induct generalizing values with
  | case1 => cases decoded; rfl
  | case2 char =>
      cases decoded
      rw [List.length_nil, List.length_singleton]
  | case3 high low rest ih =>
      rcases decodePairs_cons_eq_ok.mp decoded with ⟨_, _, others, _, _, readOthers, rfl⟩
      rw [List.length_cons, ih readOthers, List.length_cons, List.length_cons]
      omega

theorem byteDigits_lt (bytes : List UInt8) : ∀ digit ∈ bytes.map UInt8.toNat, digit < 256 := by
  intro digit member
  rcases List.mem_map.mp member with ⟨byte, _, rfl⟩
  exact byte.toNat_lt

namespace AssetId

/-- Read an asset id from hexadecimal digits of either case, with or without a
leading `0x`. -/
def fromHex (hex : String) : Except AssetIdParseError AssetId :=
  let body := Text.bytes (unprefixed hex)
  if length : body.length ≠ assetIdHexLen then .error (.wrongLength body.length)
  else
    match decoded : decodePairs body with
    | .ok values => .ok ⟨values, by
        rw [decodePairs_length decoded, not_not.mp length]
        rfl⟩
    | .error error => .error error

/-- The lowercase hexadecimal digits of an asset id. -/
def toHex (id : AssetId) : String :=
  String.ofList
    (id.bytes.flatMap fun byte => [hexChar (byte.toNat / 16), hexChar (byte.toNat % 16)])

/-- The number an asset id spells, the first byte being the most significant. -/
def number (id : AssetId) : Nat := Text.number 256 (id.bytes.map UInt8.toNat)

theorem number_injective {left right : AssetId} (equal : left.number = right.number) :
    left = right := by
  rcases left with ⟨left, leftSize⟩
  rcases right with ⟨right, rightSize⟩
  have same := Text.number_injective (by simp [leftSize, rightSize]) (byteDigits_lt left)
    (byteDigits_lt right) equal
  simpa using List.map_injective_iff.mpr (fun _ _ => UInt8.toNat_inj.mp) same

end AssetId

/-! ## What a text of digits reads as -/

/-- Only digits are read as bytes. -/
theorem decodePairs_digits {chars values : List UInt8} (even : chars.length % 2 = 0)
    (decoded : decodePairs chars = .ok values) :
    ∀ char ∈ chars, ∃ value, decodeHexDigit char = .ok value := by
  induction chars using decodePairs.induct generalizing values with
  | case1 => simp
  | case2 char => simp at even
  | case3 high low rest ih =>
      obtain ⟨_, _, others, readHigh, readLow, readOthers, rfl⟩ := decodePairs_cons_eq_ok.mp decoded
      simp only [List.length_cons] at even
      have tail := ih (by omega) readOthers
      simp only [List.mem_cons, forall_eq_or_imp]
      exact ⟨⟨_, readHigh⟩, ⟨_, readLow⟩, tail⟩

/-- Each byte read is a pair of digits. -/
theorem decodePairs_pairs {chars : List Char} (ascii : ∀ char ∈ chars, IsAscii char)
    (even : chars.length % 2 = 0) {values : List UInt8}
    (decoded : decodePairs (chars.map byte) = .ok values) :
    ∃ pairs : List (Nat × Nat),
      chars.mapM hexDigit? = some (pairs.flatMap fun pair => [pair.1, pair.2]) ∧
        values.map UInt8.toNat = pairs.map fun pair => pair.1 * 16 + pair.2 := by
  induction chars using List.twoStepInduction generalizing values with
  | nil =>
      cases decoded
      exact ⟨[], rfl, rfl⟩
  | singleton char => simp at even
  | cons_cons high low rest ih _ =>
      simp only [List.mem_cons, forall_eq_or_imp] at ascii
      simp only [List.length_cons] at even
      obtain ⟨first, second, others, readHigh, readLow, readOthers, rfl⟩ :=
        decodePairs_cons_eq_ok.mp decoded
      rcases ih ascii.2.2 (by omega) readOthers with ⟨pairs, digits, spelled⟩
      have highDigit := (decodeHexDigit_byte ascii.1).mp readHigh
      have lowDigit := (decodeHexDigit_byte ascii.2.1).mp readLow
      refine ⟨(first.toNat, second.toNat) :: pairs, ?_, ?_⟩
      · simp [highDigit, lowDigit, digits]
      · simp [spelled, toNat_nibbles (decodeHexDigit_bounds readHigh).2
          (decodeHexDigit_bounds readLow).2]

/-- The bytes read from pairs of digits spell the number the digits do. -/
theorem decodePairs_number {chars : List Char} (ascii : ∀ char ∈ chars, IsAscii char)
    (even : chars.length % 2 = 0) {values : List UInt8}
    (decoded : decodePairs (chars.map byte) = .ok values) :
    hexNumber? chars = some (Text.number 256 (values.map UInt8.toNat)) := by
  rcases decodePairs_pairs ascii even decoded with ⟨pairs, digits, spelled⟩
  rw [hexNumber?, digits, spelled, Option.map_some, number_pairs]

/-- Digits can be read as bytes. -/
theorem exists_decodePairs {chars : List Char}
    (digits : ∀ char ∈ chars, (hexDigit? char).isSome) :
    ∃ values, decodePairs (chars.map byte) = .ok values := by
  induction chars using List.twoStepInduction with
  | nil => exact ⟨[], rfl⟩
  | singleton char => exact ⟨[], rfl⟩
  | cons_cons high low rest ih _ =>
      simp only [List.mem_cons, forall_eq_or_imp] at digits
      rcases ih digits.2.2 with ⟨others, readOthers⟩
      rcases exists_decodeHexDigit digits.1 with ⟨first, readFirst⟩
      rcases exists_decodeHexDigit digits.2.1 with ⟨second, readSecond⟩
      exact ⟨_, decodePairs_cons_eq_ok.mpr
        ⟨first, second, others, readFirst, readSecond, readOthers, rfl⟩⟩

namespace AssetId

theorem fromHex_eq_ok_iff_decodePairs {hex : String} {id : AssetId} :
    fromHex hex = .ok id ↔
      (Text.bytes (unprefixed hex)).length = assetIdHexLen ∧
        decodePairs (Text.bytes (unprefixed hex)) = .ok id.bytes := by
  simp only [fromHex]
  split
  next wrong => simp [wrong]
  next length =>
    simp only [not_not.mp length, true_and]
    split
    next values decoded =>
      constructor
      · intro same
        cases same
        exact decoded
      · intro same
        have equal := Except.ok.inj (decoded.symm.trans same)
        subst equal
        rfl
    next error refused => simp [refused]

/-- The digits an asset id was read from spell its number. -/
theorem fromHex_number {hex : String} {id : AssetId} (read : fromHex hex = .ok id) :
    (unprefixed hex).toList.length = assetIdHexLen ∧
      hexNumber? (unprefixed hex).toList = some id.number := by
  rcases fromHex_eq_ok_iff_decodePairs.mp read with ⟨length, decoded⟩
  have even : (Text.bytes (unprefixed hex)).length % 2 = 0 := by rw [length]; rfl
  have digits := (forall_bytes_iff fun _ digit => (decodeHexDigit_bounds digit.choose_spec).1).mp
    (decodePairs_digits even decoded)
  have ascii := fun char member => (digits char member).1
  rw [bytes_of_ascii ascii, List.length_map] at length even
  rw [bytes_of_ascii ascii] at decoded
  exact ⟨length, decodePairs_number ascii even decoded⟩

/-- Any 64 digits are read, and as the asset id of the number they spell. -/
theorem exists_fromHex {hex : String} {number : Nat}
    (length : (unprefixed hex).toList.length = assetIdHexLen)
    (spelled : hexNumber? (unprefixed hex).toList = some number) :
    ∃ id, fromHex hex = .ok id ∧ id.number = number := by
  have digits := hexNumber?_isSome_iff.mp (Option.isSome_iff_exists.mpr ⟨_, spelled⟩)
  have ascii : ∀ char ∈ (unprefixed hex).toList, IsAscii char := fun char member =>
    isAscii_of_hexDigit? (Option.isSome_iff_exists.mp (digits char member)).choose_spec
  rcases exists_decodePairs digits with ⟨values, decoded⟩
  have even : (unprefixed hex).toList.length % 2 = 0 := by rw [length]; rfl
  have size : values.length = 32 := by
    rw [decodePairs_length decoded, List.length_map, length]
    rfl
  have read : fromHex hex = .ok ⟨values, size⟩ := by
    rw [fromHex_eq_ok_iff_decodePairs, bytes_of_ascii ascii, List.length_map]
    exact ⟨length, decoded⟩
  refine ⟨⟨values, size⟩, read, ?_⟩
  have spelledToo := (fromHex_number read).2
  rw [spelled, Option.some.injEq] at spelledToo
  exact spelledToo.symm

/-- A text is an asset id when 64 digits, after at most one prefix, spell its number. -/
theorem fromHex_eq_ok_iff {hex : String} {id : AssetId} :
    fromHex hex = .ok id ↔
      (unprefixed hex).toList.length = assetIdHexLen ∧
        hexNumber? (unprefixed hex).toList = some id.number := by
  constructor
  · exact fromHex_number
  · intro digits
    rcases digits with ⟨length, spelled⟩
    rcases exists_fromHex length spelled with ⟨other, read, same⟩
    rwa [number_injective same] at read

/-! ## What an asset id is written as -/

theorem toHex_toList (id : AssetId) :
    id.toHex.toList =
      id.bytes.flatMap fun byte => [hexChar (byte.toNat / 16), hexChar (byte.toNat % 16)] :=
  String.toList_ofList

theorem toHex_length (id : AssetId) : id.toHex.toList.length = assetIdHexLen := by
  rw [toHex_toList, List.length_flatMap]
  simp [id.size, assetIdHexLen]

theorem isLowerHex_toHex (id : AssetId) : ∀ char ∈ id.toHex.toList, IsLowerHex char := by
  intro char member
  rw [toHex_toList, List.mem_flatMap] at member
  rcases member with ⟨byte, _, inside⟩
  have bounded := byte.toNat_lt
  simp only [List.mem_cons, List.not_mem_nil, or_false] at inside
  rcases inside with rfl | rfl
  · exact isLowerHex_hexChar (by omega)
  · exact isLowerHex_hexChar (by omega)

theorem mapM_hexDigit?_pairs (bytes : List UInt8) :
    (bytes.flatMap fun byte => [hexChar (byte.toNat / 16), hexChar (byte.toNat % 16)]).mapM
        hexDigit? =
      some ((bytes.map fun byte => (byte.toNat / 16, byte.toNat % 16)).flatMap
        fun pair => [pair.1, pair.2]) := by
  induction bytes with
  | nil => rfl
  | cons byte rest ih =>
      have bounded := byte.toNat_lt
      simp [ih, hexDigit?_hexChar (show byte.toNat / 16 < 16 by omega),
        hexDigit?_hexChar (show byte.toNat % 16 < 16 by omega)]

theorem hexNumber?_toHex (id : AssetId) : hexNumber? id.toHex.toList = some id.number := by
  rw [toHex_toList, hexNumber?, mapM_hexDigit?_pairs, Option.map_some, number_pairs, number,
    List.map_map]
  congr 3
  funext byte
  exact Nat.div_add_mod' byte.toNat 16

/-- An asset id is read back from its digits. -/
@[simp] theorem fromHex_toHex (id : AssetId) : fromHex id.toHex = .ok id := by
  rw [fromHex_eq_ok_iff, unprefixed_of_isLowerHex id.isLowerHex_toHex]
  exact ⟨id.toHex_length, id.hexNumber?_toHex⟩

end AssetId

/-! ## Assets -/

/-- The asset of a wallet read. -/
inductive Asset where
  | xch
  | cat (id : AssetId)
  deriving DecidableEq

namespace Asset

def xchToken : String := "xch"
def digToken : String := "dig"

/-- The digits of the $DIG asset id. -/
def digAssetIdHex : String :=
  "a406d3a9de984d03c9591c10d917593b434d5263cabe2b42f6b367df16832f81"

/-- The $DIG CAT. -/
def dig : Asset :=
  .cat ⟨[0xa4, 0x06, 0xd3, 0xa9, 0xde, 0x98, 0x4d, 0x03, 0xc9, 0x59, 0x1c, 0x10, 0xd9, 0x17, 0x59,
    0x3b, 0x43, 0x4d, 0x52, 0x63, 0xca, 0xbe, 0x2b, 0x42, 0xf6, 0xb3, 0x67, 0xdf, 0x16, 0x83,
    0x2f, 0x81], rfl⟩

def isDig (asset : Asset) : Bool := decide (asset = dig)

/-- The object that tags a CAT. -/
def catObject (digits : String) : Json := .object (.ofList [("cat", .string digits)])

instance : Serialize Asset where
  toValue
    | .xch => .string xchToken
    | .cat id =>
        if isDig (.cat id) then .string digToken
        else catObject id.toHex

/-- The two shapes an asset has on the wire
(`#[serde(untagged, deny_unknown_fields)]`). -/
inductive Wire where
  | token (token : String)
  | tagged (cat : String)

/-- Read either shape; the object must have the key `cat` and no other. -/
def Wire.read (value : Json) : Option Wire :=
  match value.view with
  | .string text => some (.token text)
  | .object map =>
      match map.entries with
      | [("cat", member)] =>
          match member.view with
          | .string digits => some (.tagged digits)
          | _ => none
      | _ => none
  | _ => none

instance : Deserialize Asset where
  fromSource _ value :=
    match Wire.read value with
    | none => .error (.custom
        [.text "expected \"xch\", \"dig\", or \x7b\"cat\":\"<64-hex asset id>\"\x7d"])
    | some (.token text) =>
        if text = xchToken then .ok .xch
        else if text = digToken then .ok dig
        else .error (.custom [.text "unknown asset ", .debug text,
          .text ": expected \"xch\", \"dig\", or \x7b\"cat\":\"<64-hex asset id>\"\x7d"])
    | some (.tagged digits) =>
        match AssetId.fromHex digits with
        | .ok id => .ok (.cat id)
        | .error error => .error (.custom [.text error.display])

@[simp] theorem Wire.read_string (text : String) : Wire.read (.string text) = some (.token text) :=
  rfl

@[simp] theorem Wire.read_catObject (digits : String) :
    Wire.read (catObject digits) = some (.tagged digits) := by
  simp only [Wire.read, catObject, Json.view_object]
  rfl

theorem Wire.read_eq_token_iff {value : Json} {text : String} :
    Wire.read value = some (.token text) ↔ value = .string text := by
  constructor
  · intro read
    cases value with
    | string other => simpa using read
    | object map =>
        simp only [Wire.read, Json.view_object] at read
        split at read
        · split at read <;> simp at read
        · cases read
    | _ => simp [Wire.read] at read
  · intro same
    subst same
    exact Wire.read_string text

theorem Wire.read_eq_tagged_iff {value : Json} {digits : String} :
    Wire.read value = some (.tagged digits) ↔ value = catObject digits := by
  constructor
  · intro read
    cases value with
    | object map =>
        simp only [Wire.read, Json.view_object] at read
        split at read
        next member single =>
          cases member with
          | string text =>
              simp only [Json.view_string, Option.some.injEq, Wire.tagged.injEq] at read
              subst read
              exact congrArg Json.object (BTreeMap.ext single)
          | _ => simp at read
        next => cases read
    | _ => simp [Wire.read] at read
  · intro same
    subst same
    exact Wire.read_catObject digits

/-- The two constants of the $DIG asset id agree. -/
theorem fromHex_digAssetIdHex : ∃ id, AssetId.fromHex digAssetIdHex = .ok id ∧ dig = .cat id :=
  ⟨_, rfl, rfl⟩

instance : LawfulSerde Asset where
  fromSource_toValue _ asset := by
    cases asset with
    | xch => rfl
    | cat id =>
        by_cases same : Asset.cat id = dig
        · simp only [toValue, fromSource, isDig, same, decide_true, if_true, Wire.read_string]
          rfl
        · simp only [toValue, fromSource, isDig, same, decide_false, Bool.false_eq_true, if_false,
            Wire.read_catObject, AssetId.fromHex_toHex]

instance : NeverNull Asset where
  toValue_ne_null asset := by
    cases asset with
    | xch => exact nofun
    | cat id =>
        simp only [toValue]
        split <;> exact nofun

/-! ## The token a value names -/

/-- A token by what it is: XCH, or the CAT whose asset id is the given number. -/
inductive Token where
  | xch
  | cat (id : Nat)
  deriving DecidableEq

/-- The token an asset stands for. -/
def token : Asset → Token
  | .xch => .xch
  | .cat id => .cat id.number

theorem token_injective {left right : Asset} (same : left.token = right.token) : left = right := by
  cases left with
  | xch =>
      cases right with
      | xch => rfl
      | cat right => cases same
  | cat left =>
      cases right with
      | xch => cases same
      | cat right => exact congrArg cat (AssetId.number_injective (Token.cat.inj same))

/-- The text is 64 hexadecimal digits of either case, after at most one `0x`, and
they spell the number. -/
def SpellsId (text : String) (id : Nat) : Prop :=
  ∃ digits, (text = digits ∨ text = "0x" ++ digits) ∧ digits.toList.length = 64 ∧
    hexNumber? digits.toList = some id

/-- What a JSON value means as the name of a token. -/
inductive Names : Json → Token → Prop where
  | xch : Names (.string "xch") .xch
  | dig {id : Nat} : SpellsId digAssetIdHex id → Names (.string "dig") (.cat id)
  | cat {text : String} {id : Nat} : SpellsId text id → Names (catObject text) (.cat id)

/-- The texts that spell an id are those an asset id is read from. -/
theorem spellsId_iff {text : String} {id : Nat} :
    SpellsId text id ↔ ∃ assetId, AssetId.fromHex text = .ok assetId ∧ assetId.number = id := by
  constructor
  · intro spells
    rcases spells with ⟨digits, spelling, length, spelled⟩
    have isDigit := hexNumber?_isSome_iff.mp (Option.isSome_iff_exists.mpr ⟨_, spelled⟩)
    have body : unprefixed text = digits := by
      rcases spelling with rfl | rfl
      · exact unprefixed_of_digits isDigit
      · exact unprefixed_append digits
    subst body
    exact AssetId.exists_fromHex length spelled
  · intro found
    rcases found with ⟨assetId, read, rfl⟩
    rcases AssetId.fromHex_number read with ⟨length, spelled⟩
    exact ⟨unprefixed text, eq_or_eq_prefixed text, length, spelled⟩

theorem exists_spellsId_digAssetIdHex : ∃ id, SpellsId digAssetIdHex id := by
  rcases fromHex_digAssetIdHex with ⟨id, digits, _⟩
  exact ⟨_, spellsId_iff.mpr ⟨id, digits, rfl⟩⟩

/-- Whatever names a token is read as an asset that stands for it. -/
theorem exists_of_names (source : Source) {value : Json} {token : Token}
    (names : Names value token) :
    ∃ asset : Asset, fromSource source value = .ok asset ∧ asset.token = token := by
  cases names with
  | xch => exact ⟨.xch, rfl, rfl⟩
  | dig spelled =>
      rcases spellsId_iff.mp spelled with ⟨id, read, rfl⟩
      rcases fromHex_digAssetIdHex with ⟨other, digits, isDig⟩
      cases read.symm.trans digits
      exact ⟨dig, rfl, congrArg Asset.token isDig⟩
  | cat spelled =>
      rcases spellsId_iff.mp spelled with ⟨id, read, rfl⟩
      refine ⟨.cat id, ?_, rfl⟩
      simp only [fromSource, Wire.read_catObject, read]

theorem token_eq_of_names {source : Source} {value : Json} {asset : Asset} {token : Token}
    (read : fromSource source value = .ok asset) (names : Names value token) :
    asset.token = token := by
  rcases exists_of_names source names with ⟨other, readToo, same⟩
  cases read.symm.trans readToo
  exact same

/-- An asset is read from the values that name its token, and from no others. -/
theorem fromSource_eq_ok_iff {source : Source} {value : Json} {asset : Asset} :
    fromSource source value = .ok asset ↔ Names value asset.token := by
  constructor
  · intro read
    simp only [fromSource] at read
    split at read
    next => cases read
    next text shape =>
      obtain rfl := Wire.read_eq_token_iff.mp shape
      split at read
      next same =>
        cases read
        exact same ▸ .xch
      next =>
        split at read
        next same =>
          cases read
          rcases fromHex_digAssetIdHex with ⟨id, digits, isDig⟩
          rw [isDig, same]
          exact .dig (spellsId_iff.mpr ⟨id, digits, rfl⟩)
        next => cases read
    next digits shape =>
      obtain rfl := Wire.read_eq_tagged_iff.mp shape
      split at read
      next id spelled =>
        cases read
        exact .cat (spellsId_iff.mpr ⟨id, spelled, rfl⟩)
      next => cases read
  · intro names
    rcases exists_of_names source names with ⟨other, read, same⟩
    rwa [token_injective same] at read

/-! ## The wire format as a whole -/

/-- The text is 64 hexadecimal digits of either case, after at most one `0x`. -/
def IsIdText (text : String) : Prop :=
  ∃ digits, (text = digits ∨ text = "0x" ++ digits) ∧ digits.toList.length = 64 ∧
    ∀ char ∈ digits.toList, (hexDigit? char).isSome

theorem isIdText_iff {text : String} : IsIdText text ↔ ∃ id, SpellsId text id := by
  constructor
  · intro isId
    rcases isId with ⟨digits, spelling, length, isDigit⟩
    rcases Option.isSome_iff_exists.mp (hexNumber?_isSome_iff.mpr isDigit) with ⟨id, spelled⟩
    exact ⟨id, digits, spelling, length, spelled⟩
  · intro spells
    rcases spells with ⟨id, digits, spelling, length, spelled⟩
    exact ⟨digits, spelling, length,
      hexNumber?_isSome_iff.mp (Option.isSome_iff_exists.mpr ⟨id, spelled⟩)⟩

theorem exists_names_iff {value : Json} :
    (∃ token, Names value token) ↔
      value = .string "xch" ∨ value = .string "dig" ∨
        ∃ text, value = catObject text ∧ IsIdText text := by
  constructor
  · intro named
    rcases named with ⟨_, names⟩
    cases names with
    | xch => exact .inl rfl
    | dig _ => exact .inr (.inl rfl)
    | cat spelled => exact .inr (.inr ⟨_, rfl, isIdText_iff.mpr ⟨_, spelled⟩⟩)
  · intro shape
    rcases shape with rfl | rfl | ⟨text, rfl, isId⟩
    · exact ⟨_, .xch⟩
    · rcases exists_spellsId_digAssetIdHex with ⟨id, spelled⟩
      exact ⟨_, .dig spelled⟩
    · rcases isIdText_iff.mp isId with ⟨id, spelled⟩
      exact ⟨_, .cat spelled⟩

/-- A value is read as an asset just when it names a token. -/
theorem exists_fromSource_iff {source : Source} {value : Json} :
    (∃ asset : Asset, fromSource source value = .ok asset) ↔ ∃ token, Names value token := by
  constructor
  · intro found
    rcases found with ⟨asset, read⟩
    exact ⟨asset.token, fromSource_eq_ok_iff.mp read⟩
  · intro named
    rcases named with ⟨token, names⟩
    rcases exists_of_names source names with ⟨asset, read, _⟩
    exact ⟨asset, read⟩

theorem exists_toHex_dig : ∃ id, dig = .cat id ∧ id.toHex = digAssetIdHex :=
  ⟨_, rfl, by decide +kernel⟩

theorem eq_dig_iff {id : AssetId} : cat id = dig ↔ id.toHex = digAssetIdHex := by
  rcases exists_toHex_dig with ⟨digId, isDig, digits⟩
  rw [isDig, cat.injEq]
  constructor
  · intro same
    subst same
    exact digits
  · intro same
    have read := id.fromHex_toHex
    rw [same, ← digits, AssetId.fromHex_toHex] at read
    exact (Except.ok.inj read).symm

/-- An asset other than XCH is written as a token of its own just when it is $DIG. -/
theorem toValue_cat (id : AssetId) :
    toValue (cat id) =
      if id.toHex = digAssetIdHex then .string "dig" else catObject id.toHex := by
  simp only [toValue, isDig, decide_eq_true_eq, eq_dig_iff]
  rfl

theorem toValue_eq_dig_iff {asset : Asset} :
    toValue asset = .string "dig" ↔ ∃ id, asset = .cat id ∧ id.toHex = digAssetIdHex := by
  cases asset with
  | xch => simp [toValue, xchToken]
  | cat id =>
      rw [toValue_cat]
      split
      next same => exact ⟨fun _ => ⟨id, rfl, same⟩, fun _ => rfl⟩
      next other =>
        constructor
        · exact nofun
        · intro isCat
          rcases isCat with ⟨_, same, digits⟩
          cases same
          exact absurd digits other

/-- The asset format in both directions: which values are read, that reading undoes
writing, what is written, and that two values are read as one asset just when they
name one token. -/
theorem wire_format :
    (∀ value, (∃ asset : Asset, fromValue value = .ok asset) ↔
      value = .string "xch" ∨ value = .string "dig" ∨
        ∃ text, value = catObject text ∧ IsIdText text) ∧
    (∀ asset : Asset, fromValue (toValue asset) = .ok asset) ∧
    (∀ asset : Asset, toValue asset = .string "xch" ∨ toValue asset = .string "dig" ∨
      ∃ digits, toValue asset = catObject digits ∧ digits.toList.length = 64 ∧
        ∀ char ∈ digits.toList, IsLowerHex char) ∧
    (∀ asset : Asset, toValue asset = .string "dig" ↔
      ∃ id, asset = .cat id ∧ id.toHex = digAssetIdHex) ∧
    ∀ left right (leftAsset rightAsset : Asset), fromValue left = .ok leftAsset →
      fromValue right = .ok rightAsset →
      (leftAsset = rightAsset ↔ ∃ token, Names left token ∧ Names right token) := by
  refine ⟨fun value => exists_fromSource_iff.trans exists_names_iff, fromValue_toValue,
    fun asset => ?_, fun _ => toValue_eq_dig_iff, ?_⟩
  · cases asset with
    | xch => exact .inl rfl
    | cat id =>
        rw [toValue_cat]
        split
        next => exact .inr (.inl rfl)
        next => exact .inr (.inr ⟨_, rfl, id.toHex_length, id.isLowerHex_toHex⟩)
  · intro left right leftAsset rightAsset readLeft readRight
    constructor
    · intro same
      subst same
      exact ⟨_, fromSource_eq_ok_iff.mp readLeft, fromSource_eq_ok_iff.mp readRight⟩
    · intro common
      rcases common with ⟨token, namesLeft, namesRight⟩
      apply token_injective
      rw [token_eq_of_names readLeft namesLeft, token_eq_of_names readRight namesRight]

end Asset

end ControlInterface
