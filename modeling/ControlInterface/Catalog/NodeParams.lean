import ControlInterface.Traits

/-!
# How a node takes params

A params type of the catalog is ignored, decoded, or decoded and validated by the
node.  Each of these ways comes with the facts about it that hold of every type
taken that way: a call survives the transport, an undeclared member of the request
is without effect, a refusal is an invalid-params error, and what is accepted
satisfies the contract of the type.
-/

namespace ControlInterface

open Serde ControlHandler

/-! ## Decoding -/

section Decode

variable {env : Environment} {P : Type}

theorem decode_eq_ok_iff [Deserialize P] {json : Json} {params : P} :
    decode env json = .ok params ↔ fromValue json = .ok params :=
  mapErr_eq_ok_iff

theorem isRefusal_decode [Deserialize P] {json : Json} {error : ControlError}
    (failed : (decode env json : Except ControlError P) = .error error) : IsRefusal error := by
  rw [decode] at failed
  cases read : (fromValue json : Except DeError P) with
  | ok params => rw [read] at failed; cases failed
  | error cause =>
      rw [read] at failed
      cases failed
      exact ⟨_, rfl⟩

theorem decode_congr [DeriveStruct P] {left right : JsonMap}
    (agree : ∀ key ∈ (DeStruct.fields (S := P)).declared, left.get? key = right.get? key) :
    (decode env (.object left) : Except ControlError P) = decode env (.object right) := by
  have same : (fromValue (.object left) : Except DeError P) = fromValue (.object right) := by
    rw [fromValue, fromValue, fromSource_object, fromSource_object, Fields.fromMap_congr agree]
  rw [decode, decode, same]

end Decode

namespace SelfValidating

variable {env : Environment} {S : Type} [SelfValidating S]

/-- What is deserialized has passed the checks, and passes them again. -/
theorem validated_of_fromValue {json : Json} {params : S} (read : fromValue json = .ok params) :
    validated params = .ok params := by
  rcases bind_eq_ok.mp read with ⟨raw, _, checked⟩
  rw [← toTuple_ofTuple (S := S) raw] at checked
  exact validated_idem (check_eq_ok_iff.mp checked)

/-- The validating constructor has nothing left to do after deserialization. -/
theorem decode_bind_validated (json : Json) :
    (decode env json >>= validated : Except ControlError S) = decode env json := by
  cases read : (decode env json : Except ControlError S) with
  | error error => rfl
  | ok params => exact validated_of_fromValue (decode_eq_ok_iff.mp read)

theorem decode_toValue_eq_ok_iff {params result : S} :
    decode env (toValue params) = .ok result ↔ validated params = .ok result := by
  rw [decode_eq_ok_iff, fromValue, ShadowStruct.fromSource_toValue, check_eq_ok_iff]

theorem decode_congr {left right : JsonMap}
    (agree : ∀ key ∈ (ShadowStruct.de (S := S)).declared, left.get? key = right.get? key) :
    (decode env (.object left) : Except ControlError S) = decode env (.object right) := by
  have same : (fromValue (.object left) : Except DeError S) = fromValue (.object right) := by
    rw [fromValue, fromValue, ShadowStruct.fromSource_object, ShadowStruct.fromSource_object,
      Fields.fromMap_congr agree]
  rw [decode, decode, same]

end SelfValidating

/-! ## Ways to take params -/

/-- How the node takes params of a type. -/
structure NodeParams (env : Environment) (P : Type) [Serialize P] where
  /-- The fields of the type. -/
  declared : List String
  /-- The validating constructor of the type, if it has one. -/
  validated : P → Except ControlError P
  /-- Decode and validate. -/
  accept : Json → Except ControlError P
  toValue_object (params : P) : ∃ map, toValue params = .object map
  accept_toValue {params result : P} :
    accept (toValue params) = .ok result ↔ validated params = .ok result
  accept_congr {left right : JsonMap} :
    (∀ key ∈ declared, left.get? key = right.get? key) →
      accept (.object left) = accept (.object right)
  validated_of_accept {json : Json} {params : P} :
    accept json = .ok params → validated params = .ok params
  isRefusal {json : Json} {error : ControlError} :
    accept json = .error error → IsRefusal error

namespace NodeParams

variable (env : Environment) (P : Type)

/-- The method takes no params: whatever the request holds is ignored. -/
def ignored [EmptyStruct P] : NodeParams env P where
  declared := []
  validated := .ok
  accept _ := .ok EmptyStruct.value
  toValue_object _ := ⟨_, rfl⟩
  accept_toValue {params _} := by rw [EmptyStruct.only params]
  accept_congr _ := rfl
  validated_of_accept accepted := by cases accepted; rfl
  isRefusal := nofun

/-- The params are decoded, and need no validation. -/
def decoded [DeriveStruct P] : NodeParams env P where
  declared := (DeStruct.fields (S := P)).declared
  validated := .ok
  accept := decode env
  toValue_object _ := ⟨_, rfl⟩
  accept_toValue := by
    intro params result
    simp only [decode_eq_ok_iff, fromValue_toValue, Except.ok.injEq]
  accept_congr := decode_congr
  validated_of_accept _ := rfl
  isRefusal := isRefusal_decode

/-- The params are decoded, and then validated by the dispatcher. -/
def validatedBy [DeriveStruct P] (validated : P → Except ControlError P)
    (idem : ∀ {params result}, validated params = .ok result → validated result = .ok result)
    (refusal : ∀ {params error}, validated params = .error error → IsRefusal error) :
    NodeParams env P where
  declared := (DeStruct.fields (S := P)).declared
  validated := validated
  accept json := decode env json >>= validated
  toValue_object _ := ⟨_, rfl⟩
  accept_toValue := by
    intro params result
    have read : decode env (toValue params) = .ok params :=
      decode_eq_ok_iff.mpr (fromValue_toValue params)
    rw [read, ok_bind]
  accept_congr agree := by rw [decode_congr agree]
  validated_of_accept accepted := by
    rcases bind_eq_ok.mp accepted with ⟨_, _, checked⟩
    exact idem checked
  isRefusal := by
    intro json error failed
    cases read : (decode env json : Except ControlError P) with
    | error cause =>
        rw [read] at failed
        cases failed
        exact isRefusal_decode read
    | ok params =>
        rw [read] at failed
        exact refusal failed

/-- The params validate themselves while they are decoded. -/
def selfValidating [SelfValidating P] : NodeParams env P where
  declared := (ShadowStruct.de (S := P)).declared
  validated := SelfValidating.validated
  accept json := decode env json >>= SelfValidating.validated
  toValue_object _ := ⟨_, rfl⟩
  accept_toValue := by
    intro params result
    rw [SelfValidating.decode_bind_validated, SelfValidating.decode_toValue_eq_ok_iff]
  accept_congr agree := by rw [SelfValidating.decode_congr agree]
  validated_of_accept accepted := by
    rcases bind_eq_ok.mp accepted with ⟨_, _, checked⟩
    exact SelfValidating.validated_idem checked
  isRefusal := by
    intro json error failed
    rw [SelfValidating.decode_bind_validated] at failed
    exact isRefusal_decode failed

end NodeParams

end ControlInterface
