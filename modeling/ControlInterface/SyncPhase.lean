import ControlInterface.Results.Wallet

/-!
# Sync phases and who can build them

The open variant of a sync phase holds a text of the node.  As the type is declared that
may be any text; what keeps it apart from the names of the other variants is that the
text is private, so that the ways to build a phase are the five plain variants, the
conversion from a text, and deserialization.  The phases these can build are the values
of the sealed type that the results carry.
-/

namespace ControlInterface

open Serde

/-- A sync phase as it is declared, with whatever text in the open variant. -/
inductive PhaseValue where
  | notStarted
  | syncing
  | synced
  | noWalletEnrolled
  | walletNotUnlocked
  | unrecognized (token : String)
  deriving DecidableEq

namespace PhaseValue

def asWire : PhaseValue → String
  | .notStarted => "not_started"
  | .syncing => "syncing"
  | .synced => "synced"
  | .noWalletEnrolled => "no_wallet_enrolled"
  | .walletNotUnlocked => "wallet_not_unlocked"
  | .unrecognized token => token

/-- `From<&str>` -/
def fromToken (token : String) : PhaseValue :=
  match token with
  | "not_started" => .notStarted
  | "syncing" => .syncing
  | "synced" => .synced
  | "no_wallet_enrolled" => .noWalletEnrolled
  | "wallet_not_unlocked" => .walletNotUnlocked
  | other => .unrecognized other

def unrecognizedToken : PhaseValue → Option String
  | .unrecognized token => some token
  | _ => none

def isRecognized : PhaseValue → Bool
  | .unrecognized _ => false
  | _ => true

def mayRenderAsSettled : PhaseValue → Bool
  | .synced | .noWalletEnrolled => true
  | .notStarted | .syncing | .walletNotUnlocked | .unrecognized _ => false

instance : Serialize PhaseValue := ⟨fun phase => toValue phase.asWire⟩

instance : Deserialize PhaseValue where
  fromSource source value := fromToken <$> fromSource source value

/-- The phases that can be built outside the crate. -/
inductive Obtainable : PhaseValue → Prop where
  | notStarted : Obtainable .notStarted
  | syncing : Obtainable .syncing
  | synced : Obtainable .synced
  | noWalletEnrolled : Obtainable .noWalletEnrolled
  | walletNotUnlocked : Obtainable .walletNotUnlocked
  | fromToken (token : String) : Obtainable (fromToken token)
  | deserialize {source : Source} {json : Json} {phase : PhaseValue} :
      fromSource source json = .ok phase → Obtainable phase

/-! ## What can be built -/

/-- The conversion keeps the text. -/
theorem asWire_fromToken (token : String) : (fromToken token).asWire = token := by
  unfold fromToken
  split <;> rfl

/-- What is read is what a text is converted to. -/
theorem fromSource_eq_ok_iff {source : Source} {json : Json} {phase : PhaseValue} :
    fromSource source json = .ok phase ↔ ∃ token, json = .string token ∧ fromToken token = phase :=
  map_eq_ok.trans (by simp only [fromSource_string_eq_ok])

/-- A phase can be built exactly when its text is converted back to it. -/
theorem obtainable_iff {phase : PhaseValue} :
    Obtainable phase ↔ fromToken phase.asWire = phase := by
  constructor
  · intro obtainable
    cases obtainable with
    | fromToken token => rw [asWire_fromToken]
    | deserialize read =>
        rcases fromSource_eq_ok_iff.mp read with ⟨token, _, rfl⟩
        rw [asWire_fromToken]
    | _ => rfl
  · intro same
    rw [← same]
    exact .fromToken _

/-- The spellings of the plain variants. -/
def knownTokens : List String :=
  ["not_started", "syncing", "synced", "no_wallet_enrolled", "wallet_not_unlocked"]

/-- The conversion of any other text is the open variant. -/
theorem fromToken_of_not_known {token : String} (unknown : token ∉ knownTokens) :
    fromToken token = .unrecognized token := by
  unfold fromToken
  split
  next => exact absurd (by decide) unknown
  next => exact absurd (by decide) unknown
  next => exact absurd (by decide) unknown
  next => exact absurd (by decide) unknown
  next => exact absurd (by decide) unknown
  next => rfl

section

variable {phase other : PhaseValue}

theorem Obtainable.eq_unrecognized (obtainable : Obtainable phase)
    (unknown : phase.asWire ∉ knownTokens) : phase = .unrecognized phase.asWire := by
  rw [← fromToken_of_not_known unknown, obtainable_iff.mp obtainable]

/-- Of a phase that can be built, the open variant holds no known spelling. -/
theorem Obtainable.isRecognized_iff (obtainable : Obtainable phase) :
    phase.isRecognized = true ↔ phase.asWire ∈ knownTokens := by
  constructor
  · intro recognized
    by_contra unknown
    rw [obtainable.eq_unrecognized unknown] at recognized
    cases recognized
  · intro known
    cases phase with
    | unrecognized token =>
        have back : PhaseValue.fromToken token = .unrecognized token := obtainable_iff.mp obtainable
        simp only [asWire, knownTokens, List.mem_cons, List.not_mem_nil, or_false] at known
        rcases known with rfl | rfl | rfl | rfl | rfl <;> cases back
    | _ => rfl

theorem Obtainable.unrecognizedToken_eq_some_iff (obtainable : Obtainable phase) {text : String} :
    phase.unrecognizedToken = some text ↔ phase.asWire = text ∧ text ∉ knownTokens := by
  have recognized := obtainable.isRecognized_iff
  constructor
  · intro held
    cases phase with
    | unrecognized token =>
        cases held
        exact ⟨rfl, fun known => absurd (recognized.mpr known) Bool.false_ne_true⟩
    | _ => cases held
  · intro unknown
    rcases unknown with ⟨rfl, unknown⟩
    rw [obtainable.eq_unrecognized unknown]
    rfl

theorem Obtainable.eq_iff (obtainable : Obtainable phase) (obtainableOther : Obtainable other) :
    phase = other ↔ phase.asWire = other.asWire := by
  constructor
  · intro same
    rw [same]
  · intro same
    rw [← obtainable_iff.mp obtainable, same, obtainable_iff.mp obtainableOther]

theorem Obtainable.mayRenderAsSettled_iff (obtainable : Obtainable phase) :
    phase.mayRenderAsSettled = true ↔
      phase.asWire = "synced" ∨ phase.asWire = "no_wallet_enrolled" := by
  constructor
  · intro settled
    cases phase with
    | synced => exact .inl rfl
    | noWalletEnrolled => exact .inr rfl
    | _ => cases settled
  · intro spelled
    rw [← obtainable_iff.mp obtainable]
    rcases spelled with same | same <;> rw [same] <;> rfl

/-- What is written for a phase that can be built is read back as it. -/
theorem Obtainable.fromValue_toValue (obtainable : Obtainable phase) :
    fromValue (toValue phase) = .ok phase :=
  fromSource_eq_ok_iff.mpr ⟨phase.asWire, rfl, obtainable_iff.mp obtainable⟩

end

/-- Texts are kept, phases that can be built are told apart by their spellings, and every
text but nothing else is read as a phase. -/
theorem tokens_round_trip :
    (∀ token, (fromToken token).asWire = token) ∧
      (∀ phase, Obtainable phase →
        fromValue (toValue phase) = .ok phase ∧
          (phase.isRecognized = true ↔ phase.asWire ∈ knownTokens) ∧
          (∀ text, phase.unrecognizedToken = some text ↔
            phase.asWire = text ∧ text ∉ knownTokens) ∧
          (∀ other, Obtainable other → (phase = other ↔ phase.asWire = other.asWire)) ∧
          (phase.mayRenderAsSettled = true ↔
            phase.asWire = "synced" ∨ phase.asWire = "no_wallet_enrolled")) ∧
      ∀ json, (∃ phase : PhaseValue, fromValue json = .ok phase) ↔
        ∃ token, json = .string token := by
  refine ⟨asWire_fromToken, ?_, ?_⟩
  · intro phase obtainable
    exact ⟨obtainable.fromValue_toValue, obtainable.isRecognized_iff,
      fun _ => obtainable.unrecognizedToken_eq_some_iff, fun _ => obtainable.eq_iff,
      obtainable.mayRenderAsSettled_iff⟩
  · intro json
    constructor
    · intro read
      rcases read with ⟨phase, read⟩
      rcases fromSource_eq_ok_iff.mp read with ⟨token, spelled, _⟩
      exact ⟨token, spelled⟩
    · intro spelled
      rcases spelled with ⟨token, spelled⟩
      exact ⟨_, fromSource_eq_ok_iff.mpr ⟨token, spelled, rfl⟩⟩

end PhaseValue

/-! ## The sealed type -/

namespace WalletSyncPhase

/-- The phase as it is declared. -/
def value : WalletSyncPhase → PhaseValue
  | .notStarted => .notStarted
  | .syncing => .syncing
  | .synced => .synced
  | .noWalletEnrolled => .noWalletEnrolled
  | .walletNotUnlocked => .walletNotUnlocked
  | .unrecognized token => .unrecognized token.text

theorem asWire_value (phase : WalletSyncPhase) : phase.value.asWire = phase.asWire := by
  cases phase <;> rfl

/-- The text of a sealed phase is converted to the phase. -/
theorem fromToken_asWire (phase : WalletSyncPhase) :
    PhaseValue.fromToken phase.asWire = phase.value := by
  cases phase with
  | unrecognized token =>
      apply PhaseValue.fromToken_of_not_known
      exact of_decide_eq_false token.unknown
  | _ => rfl

/-- The conversion of the sealed type is that of the declared one. -/
theorem value_ofWire (token : String) : (ofWire token).value = .fromToken token := by
  have kept : (ofWire token).asWire = token := by
    unfold ofWire
    split_ifs with notStarted syncing synced notEnrolled notUnlocked <;> simp_all [asWire]
  rw [← fromToken_asWire, kept]

/-- The sealed type has a value for each phase that can be built, and for no other. -/
theorem exists_value_iff {declared : PhaseValue} :
    (∃ phase : WalletSyncPhase, phase.value = declared) ↔ declared.Obtainable := by
  rw [PhaseValue.obtainable_iff]
  constructor
  · intro sealed
    rcases sealed with ⟨phase, rfl⟩
    rw [asWire_value, fromToken_asWire]
  · intro same
    exact ⟨ofWire declared.asWire, (value_ofWire _).trans same⟩

end WalletSyncPhase

end ControlInterface
