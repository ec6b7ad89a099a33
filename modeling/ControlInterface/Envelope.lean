import ControlInterface.Error

/-!
# The JSON-RPC envelope

Requests, responses and their ids, with the rules for the two optional members of
a response: each is left out when absent, and each reads a `null` as an absence.
-/

namespace ControlInterface

open Serde

/-! ## Request ids -/

/-- The id of a request (`#[serde(untagged)]`). -/
inductive RequestId where
  | number (value : Int64)
  | string (value : String)
  | null
  deriving DecidableEq

namespace RequestId

instance : Serialize RequestId where
  toValue
    | .number value => toValue value
    | .string value => toValue value
    | .null => .null

/-- An untagged enum is buffered and tried variant by variant; what made each of
them fail is not reported. -/
instance : Deserialize RequestId where
  fromSource _ value :=
    match (fromSource .content value : Except DeError Int64) with
    | .ok integer => .ok (.number integer)
    | .error _ =>
        match (fromSource .content value : Except DeError String) with
        | .ok text => .ok (.string text)
        | .error _ =>
            match value.view with
            | .null => .ok .null
            | _ =>
                .error (.custom [.text "data did not match any variant of untagged enum RequestId"])

instance : LawfulSerde RequestId where
  fromSource_toValue _ id := by
    cases id with
    | number value =>
        have read : (fromSource .content (toValue value) : Except DeError Int64) = .ok value :=
          LawfulSerde.fromSource_toValue .content value
        simp only [fromSource, toValue] at read ⊢
        rw [read]
    | string value => rfl
    | null => rfl

/-- Only the spelling of an id is read as it. -/
theorem fromSource_eq_ok_iff {source : Source} {json : Json} {id : RequestId} :
    fromSource source json = .ok id ↔ json = toValue id := by
  constructor
  · intro read
    simp only [fromSource] at read
    split at read
    next integer readInteger =>
      cases read
      have taken : fromSource .content json = .ok integer := readInteger
      exact fromSource_int64_eq_ok.mp taken
    next =>
      split at read
      next text readText =>
        cases read
        have taken : fromSource .content json = .ok text := readText
        exact fromSource_string_eq_ok.mp taken
      next =>
        cases json with
        | null =>
            cases read
            rfl
        | _ => simp at read
  · intro same
    subst same
    exact LawfulSerde.fromSource_toValue source id

end RequestId

/-! ## Requests -/

/-- A request. -/
structure JsonRpcRequest where
  jsonrpc : String
  id : RequestId
  method : String
  params : Json

instance : DeriveStruct JsonRpcRequest where
  name := "JsonRpcRequest"
  types := [String, RequestId, String, Json]
  fields := .plain "jsonrpc" <| .plain "id" <| .plain "method" <| .plain "params" .nil
  equiv := ⟨fun request => (request.jsonrpc, request.id, request.method, request.params, ()),
    fun (jsonrpc, id, method, params, ()) => ⟨jsonrpc, id, method, params⟩,
    fun _ => rfl, fun _ => rfl⟩

/-- A request of the one protocol version. -/
def JsonRpcRequest.new (id : RequestId) (method : String) (params : Json) : JsonRpcRequest where
  jsonrpc := "2.0"
  id := id
  method := method
  params := params

/-! ## Responses -/

/-- A response: `result` on success and `error` on failure. -/
structure JsonRpcResponse where
  jsonrpc : String
  id : RequestId
  result : Option Json
  error : Option ControlError

/-- `result` is an optional raw value, so the two directions are described apart:
no law can hold of a field that reads `null` as an absence and may contain it. -/
instance : SerStruct JsonRpcResponse where
  types := [String, RequestId, Option Json, Option ControlError]
  fields := .cons (.plain "jsonrpc") <| .cons (.plain "id") <| .cons (.skipNone "result") <|
    .cons (.skipNone "error") .nil
  toTuple response := (response.jsonrpc, response.id, response.result, response.error, ())

instance : DeStruct JsonRpcResponse where
  name := "JsonRpcResponse"
  types := [String, RequestId, Option Json, Option ControlError]
  fields := .cons (.plain "jsonrpc") <| .cons (.plain "id") <| .cons (.default "result" none) <|
    .cons (.default "error" none) .nil
  ofTuple := fun (jsonrpc, id, result, error, ()) => ⟨jsonrpc, id, result, error⟩

namespace JsonRpcResponse

/-- The response to a call that succeeded. -/
def success (id : RequestId) (result : Json) : JsonRpcResponse where
  jsonrpc := "2.0"
  id := id
  result := some result
  error := none

/-- The response to a call that failed. -/
def failure (id : RequestId) (error : ControlError) : JsonRpcResponse where
  jsonrpc := "2.0"
  id := id
  result := none
  error := some error

/-- What a client takes a response for. -/
def intoResult (response : JsonRpcResponse) : Except ControlError Json :=
  match response.result, response.error with
  | some value, _ => .ok value
  | none, some error => .error error
  | none, none => .error (.of .controlError
      "malformed JSON-RPC response: neither result nor error present")

/-- A result member as a client reads it: an explicit `null` counts as absent. -/
def present (value : Json) : Option Json :=
  match value.view with
  | .null => none
  | _ => some value

@[simp] theorem present_null : present .null = none := rfl

theorem present_of_ne_null {value : Json} (other : value ≠ .null) : present value = some value := by
  cases value with
  | null => contradiction
  | _ => simp [present]

theorem fromSource_option_json (value : Json) :
    (fromSource .value value : Except DeError (Option Json)) = .ok (present value) := by
  cases value <;> simp [fromSource, present]

/-- What a client decodes of a response that was sent: everything, except that a
`null` result is gone. -/
theorem fromValue_toValue (response : JsonRpcResponse) :
    fromValue (toValue response) =
      .ok { response with result := response.result.bind present } := by
  rcases response with ⟨jsonrpc, id, result, error⟩
  have readResult : (DeField.default "result" (none : Option Json)).take .value
      (if result.isNone then none else some (toValue result)) = .ok (result.bind present) := by
    cases result with
    | none => rfl
    | some value => exact fromSource_option_json value
  have readError : (DeField.default "error" (none : Option ControlError)).take .value
      (if error.isNone then none else some (toValue error)) = .ok error := by
    cases error with
    | none => rfl
    | some error => exact LawfulSerde.fromSource_toValue .value (some error)
  have reads : (DeStruct.fields (S := JsonRpcResponse)).fromMap .value
      (SerStruct.members (⟨jsonrpc, id, result, error⟩ : JsonRpcResponse)) =
        .ok (jsonrpc, id, result.bind present, error, ()) := by
    refine (Fields.fromMap_eq_ok_iff ..).mpr ⟨?_, ?_, ?_, ?_, trivial⟩
    · rw [SerStruct.get?_members]
      exact LawfulSerde.fromSource_toValue .value jsonrpc
    · rw [SerStruct.get?_members]
      exact LawfulSerde.fromSource_toValue .value id
    · rw [SerStruct.get?_members]
      exact readResult
    · rw [SerStruct.get?_members]
      exact readError
  have read := fromSource_object (S := JsonRpcResponse) .value
    (SerStruct.members (⟨jsonrpc, id, result, error⟩ : JsonRpcResponse))
  rw [reads] at read
  exact read

end JsonRpcResponse

end ControlInterface
