import ControlInterface.Results.Node
import ControlInterface.Results.Collateral

/-!
# Verdict fields

Some fields of results are nullable and mean something by it: the chain was read and
holds no such coin, the page has no row to resume from, the node holds no body.  A
`null` is an answer there and a missing key is not.  This module says which values
their readers take for that answer.
-/

namespace ControlInterface

open Serde

/-- The fields whose `null` is documented as a definite answer. -/
inductive VerdictField where
  | walletCoinById
  | walletCoinSpend
  | walletCoinsByParent
  | spendsList
  | mirrorBondStates
  | automatedSpend
  | profileGetBody
  deriving DecidableEq

namespace VerdictField

/-- The type the field belongs to. -/
abbrev Result : VerdictField → Type
  | .walletCoinById => WalletCoinByIdResult
  | .walletCoinSpend => WalletCoinSpendResult
  | .walletCoinsByParent => WalletCoinsByParentResult
  | .spendsList => SpendsListResult
  | .mirrorBondStates => MirrorBondStatesResult
  | .automatedSpend => AutomatedSpend
  | .profileGetBody => ProfileGetBodyResult

/-- What the field holds when it is not `null`. -/
abbrev Answer : VerdictField → Type
  | .walletCoinById => WalletCoinRecord
  | .walletCoinSpend => WalletCoinSpend
  | .walletCoinsByParent => String
  | .spendsList => String
  | .mirrorBondStates => MirrorBondKey
  | .automatedSpend => SpendChainReference
  | .profileGetBody => String

/-- The key of the field. -/
def key : VerdictField → String
  | .walletCoinById => "coin"
  | .walletCoinSpend => "spend"
  | .walletCoinsByParent => "cursor"
  | .spendsList => "cursor"
  | .mirrorBondStates => "cursor"
  | .automatedSpend => "chain_reference"
  | .profileGetBody => "body_b64"

/-- The key that says which variant a value is of, where the type has variants. -/
def tag : VerdictField → Option String
  | .mirrorBondStates => some "state"
  | _ => none

/-- The field of a value that has it. -/
def answer : (field : VerdictField) → field.Result → Option (Option field.Answer)
  | .walletCoinById, result => some result.coin
  | .walletCoinSpend, result => some result.spend
  | .walletCoinsByParent, result => some result.cursor
  | .spendsList, result => some result.cursor
  | .mirrorBondStates, .known _ _ cursor _ _ _ _ => some cursor
  | .mirrorBondStates, .unknown _ => none
  | .automatedSpend, spend => some spend.chainReference
  | .profileGetBody, result => some result.bodyB64

instance : (field : VerdictField) → Serialize field.Result
  | .walletCoinById => inferInstanceAs (Serialize WalletCoinByIdResult)
  | .walletCoinSpend => inferInstanceAs (Serialize WalletCoinSpendResult)
  | .walletCoinsByParent => inferInstanceAs (Serialize WalletCoinsByParentResult)
  | .spendsList => inferInstanceAs (Serialize SpendsListResult)
  | .mirrorBondStates => inferInstanceAs (Serialize MirrorBondStatesResult)
  | .automatedSpend => inferInstanceAs (Serialize AutomatedSpend)
  | .profileGetBody => inferInstanceAs (Serialize ProfileGetBodyResult)

instance : (field : VerdictField) → Deserialize field.Result
  | .walletCoinById => inferInstanceAs (Deserialize WalletCoinByIdResult)
  | .walletCoinSpend => inferInstanceAs (Deserialize WalletCoinSpendResult)
  | .walletCoinsByParent => inferInstanceAs (Deserialize WalletCoinsByParentResult)
  | .spendsList => inferInstanceAs (Deserialize SpendsListResult)
  | .mirrorBondStates => inferInstanceAs (Deserialize MirrorBondStatesResult)
  | .automatedSpend => inferInstanceAs (Deserialize AutomatedSpend)
  | .profileGetBody => inferInstanceAs (Deserialize ProfileGetBodyResult)

/-- What is read of an object as the type of the field. -/
def decode (field : VerdictField) (map : JsonMap) : Except DeError field.Result :=
  fromValue (.object map)

/-! ## Objects without the key -/

/-- An object that may be told apart from the encoding of the value by anything but its
variant, and does not have the key of the field. -/
def Stripped (field : VerdictField) (value : field.Result) (map : JsonMap) : Prop :=
  map.get? field.key = none ∧ ∀ tag ∈ field.tag, map.get? tag = (toValue value).member tag

/-- A body answer that says nothing about the body, and everything else. -/
def BodyMissing (map : JsonMap) : Prop :=
  map.get? "body_b64" = none ∧ (∃ text, map.get? "store_id" = some (.string text)) ∧
    (∃ text, map.get? "root" = some (.string text)) ∧
    ∃ number : WireInt, map.get? "body_bytes" = some (.number (.int number)) ∧ 0 ≤ number.1

/-- The object is read as a verdict it does not give. -/
def Misread (field : VerdictField) (map : JsonMap) : Prop :=
  field = .profileGetBody ∧ BodyMissing map

section

variable {field : VerdictField} {map : JsonMap} {result : field.Result}

/-- A value that has the field was read of an object with its key, and a field that holds
nothing was given as `null`. -/
theorem exists_member (other : field ≠ .profileGetBody) (read : field.decode map = .ok result)
    {held : Option field.Answer} (has : field.answer result = some held) :
    ∃ given, map.get? field.key = some given ∧ (held = none → given = .null) := by
  cases field with
  | walletCoinById =>
      rcases DeriveStruct.filled_of_object read with ⟨raw, filled, rfl⟩
      cases has
      exact filled.1.exists_of_required
  | walletCoinSpend =>
      rcases DeriveStruct.filled_of_object read with ⟨raw, filled, rfl⟩
      cases has
      exact filled.1.exists_of_required
  | walletCoinsByParent =>
      rcases DeriveStruct.filled_of_object read with ⟨raw, filled, rfl⟩
      cases has
      exact filled.2.2.1.exists_of_required
  | spendsList =>
      rcases DeriveStruct.filled_of_object read with ⟨raw, filled, rfl⟩
      cases has
      exact filled.2.2.1.exists_of_required
  | automatedSpend =>
      rcases DeriveStruct.filled_of_object read with ⟨raw, filled, rfl⟩
      cases has
      exact filled.2.2.2.2.2.2.2.2.2.2.2.2.2.1.exists_of_required
  | mirrorBondStates =>
      rcases TaggedEnum.filled_of_object read with ⟨_, filled⟩
      cases result with
      | known =>
          cases has
          rcases DeField.Fills.exists_of_required filled.2.2.1 with ⟨given, supplied, null⟩
          refine ⟨given, ?_, null⟩
          simpa [Content.supplied, TaggedEnum.tag, key, DeField.required] using supplied
      | unknown => cases has
  | profileGetBody => exact absurd rfl other

/-- An object with all but the body is read as an answer that there is none. -/
theorem decode_of_bodyMissing (missing : BodyMissing map) :
    ∃ result, decode .profileGetBody map = .ok result ∧ result.bodyB64 = none := by
  rcases missing with ⟨body, ⟨storeId, hasStoreId⟩, ⟨root, hasRoot⟩, number, hasBytes, positive⟩
  have readable : number.1.toNat < 2 ^ 64 := by
    have bounded := number.2.2
    omega
  refine ⟨⟨storeId, root, none, UInt64.ofNat number.1.toNat⟩, ?_, rfl⟩
  have reads : (DeStruct.fields (S := ProfileGetBodyResult)).fromMap .value map =
      .ok (storeId, root, none, UInt64.ofNat number.1.toNat, ()) := by
    rw [Fields.fromMap_eq_ok_iff]
    refine ⟨?_, ?_, ?_, ?_, trivial⟩
    · simp only [DeField.take, DeField.plain, hasStoreId]
      rfl
    · simp only [DeField.take, DeField.plain, hasRoot]
      rfl
    · simp only [DeField.take, DeField.plain, body]
      rfl
    · simp only [DeField.take, DeField.plain, hasBytes]
      apply intFrom_int
      exact if_pos ⟨positive, readable⟩
  exact (fromSource_object .value map).trans (by rw [reads]; rfl)

/-- A body answer read of an object without a body has everything else. -/
theorem bodyMissing_of_decode {result : ProfileGetBodyResult}
    (read : decode .profileGetBody map = .ok result) (body : map.get? "body_b64" = none) :
    BodyMissing map := by
  rcases DeriveStruct.filled_of_object read with ⟨raw, filled, rfl⟩
  rcases filled.1.exists_given rfl rfl with ⟨storeId, hasStoreId, readStoreId⟩
  rcases filled.2.1.exists_given rfl rfl with ⟨root, hasRoot, readRoot⟩
  rcases filled.2.2.2.1.exists_given rfl rfl with ⟨bytes, hasBytes, readBytes⟩
  rw [fromSource_string_eq_ok.mp readStoreId] at hasStoreId
  rw [fromSource_string_eq_ok.mp readRoot] at hasRoot
  rcases Unsigned.exists_number readBytes with ⟨number, rfl, positive⟩
  exact ⟨body, ⟨_, hasStoreId⟩, ⟨_, hasRoot⟩, number, hasBytes, positive⟩

/-- What is read of a stripped object has the field whenever the value did. -/
theorem has_of_stripped {value : field.Result} (stripped : field.Stripped value map)
    (has : (field.answer value).isSome) (read : field.decode map = .ok result) :
    ∃ held, field.answer result = some held := by
  cases field with
  | mirrorBondStates =>
      cases value with
      | unknown => cases has
      | known =>
          have same :=
            TaggedEnum.wire_eq_of_read (E := MirrorBondStatesResult) (stripped.2 "state" rfl) read
          cases result with
          | known _ _ cursor => exact ⟨cursor, rfl⟩
          | unknown => exact absurd (show "unknown" = "known" from same) (by decide)
  | _ => exact ⟨_, rfl⟩

/-- An object is read as the answer "none" only if it says so, unless it is one of the
misread ones. -/
theorem null_of_decode (clear : ¬ field.Misread map) (read : field.decode map = .ok result)
    (none : field.answer result = some none) : map.get? field.key = some .null := by
  by_cases same : field = .profileGetBody
  · subst same
    rcases DeriveStruct.filled_of_object read with ⟨raw, filled, rfl⟩
    cases given : map.get? "body_b64" with
    | none => exact absurd ⟨rfl, bodyMissing_of_decode read given⟩ clear
    | some body =>
        have readBody := filled.2.2.1.read given
        rw [show raw.2.2.1 = .none from Option.some.inj none] at readBody
        exact given.trans (congrArg some (fromSource_option_eq_none.mp readBody))
  · rcases exists_member same read none with ⟨given, supplied, null⟩
    rw [supplied, null rfl]

/-- A stripped object is not read at all, unless it is one of the misread ones. -/
theorem refuses_stripped (clear : ¬ field.Misread map) {value : field.Result}
    (stripped : field.Stripped value map) (has : (field.answer value).isSome)
    (result : field.Result) : field.decode map ≠ .ok result := by
  intro read
  by_cases same : field = .profileGetBody
  · subst same
    exact clear ⟨rfl, bodyMissing_of_decode read stripped.1⟩
  · rcases has_of_stripped stripped has read with ⟨held, holds⟩
    rcases exists_member same read holds with ⟨given, supplied, _⟩
    rw [stripped.1] at supplied
    cases supplied

/-- A misread object is read as the answer "none", and does not say so. -/
theorem Misread.exists_decode (misread : field.Misread map) :
    ∃ result, field.decode map = .ok result ∧ field.answer result = some none ∧
      map.get? field.key = none := by
  rcases misread with ⟨rfl, missing⟩
  rcases decode_of_bodyMissing missing with ⟨result, read, body⟩
  exact ⟨result, read, congrArg some body, missing.1⟩

end

/-- Reading an object as "none" takes an explicit `null`, and taking the key out of the
encoding of a value makes it unreadable, for every object but a body answer without a
body. -/
theorem verdict_iff (field : VerdictField) (map : JsonMap) :
    ((∀ result, field.decode map = .ok result → field.answer result = some none →
        map.get? field.key = some .null) ↔ ¬ field.Misread map) ∧
      ∀ value, (field.answer value).isSome → field.Stripped value map →
        ((∀ result, field.decode map ≠ .ok result) ↔ ¬ field.Misread map) := by
  constructor
  · constructor
    · intro honest misread
      rcases misread.exists_decode with ⟨result, read, none, absent⟩
      rw [honest result read none] at absent
      cases absent
    · intro clear result read none
      exact null_of_decode clear read none
  · intro value has stripped
    constructor
    · intro refuses misread
      rcases misread.exists_decode with ⟨result, read, _⟩
      exact refuses result read
    · intro clear result
      exact refuses_stripped clear stripped has result

/-- The answer that a body is held. -/
def heldBody : ProfileGetBodyResult := ⟨"5f", "a0", some "RFBC", 3⟩

/-- The object of that answer, with its key taken out. -/
def bodylessAnswer : JsonMap := (SerStruct.members heldBody).erase "body_b64"

/-- Without its key, the answer that a body is held reads as the answer that none is. -/
theorem bodylessAnswer_reads_none :
    decode .profileGetBody bodylessAnswer = .ok { heldBody with bodyB64 := none } ∧
      bodylessAnswer.get? "body_b64" = none := by
  constructor
  · rfl
  · rw [bodylessAnswer, BTreeMap.get?_erase, if_pos rfl]

end VerdictField

end ControlInterface
