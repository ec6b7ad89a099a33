import ControlInterface.Catalog.Evolution
import ControlInterface.Catalog.Transport

/-!
# Newer peers

Requests and responses may gain members on their way from a newer peer to an older one: in
the envelope, in the params, in a typed result, in an error and in its data.  A call comes
to the same over such a relay as over one that adds nothing.
-/

namespace ControlInterface

open Serde ControlHandler

/-! ## Objects with more members -/

/-- An object has the members of another one under the given keys. -/
def Keeps (keys : List String) (map wide : JsonMap) : Prop :=
  ∀ key ∈ keys, wide.get? key = map.get? key

/-- The JSON value is what the value is written as, perhaps with more members. -/
def Widens {R : Type} [Serialize R] [Deserialize R] [object : OpenObject R] (value : R)
    (wide : Json) : Prop :=
  ∃ map, wide = .object map ∧ Keeps object.declared (object.members value) map

theorem Widens.present {R : Type} [Serialize R] [Deserialize R] [OpenObject R] {value : R}
    {wide : Json} (widens : Widens value wide) : wide ≠ .null := by
  rcases widens with ⟨map, rfl, _⟩
  exact nofun

theorem Widens.self {R : Type} [Serialize R] [Deserialize R] [object : OpenObject R] (value : R) :
    Widens value (toValue value) :=
  ⟨object.members value, object.toValue_eq value, fun _ _ => rfl⟩

theorem Widens.read {R : Type} [Serialize R] [Deserialize R] [object : OpenObject R] {value : R}
    {wide : Json} (widens : Widens value wide) (source : Source) :
    fromSource source wide = .ok value := by
  rcases widens with ⟨map, rfl, keeps⟩
  have read := object.fromSource_members source value map [] nofun fun key declared => by
    rw [keeps key declared, if_neg List.not_mem_nil]
  rwa [object.forget_nil] at read

/-! ## Errors -/

/-- The JSON value is what the error is written as, perhaps with more members in it and in
its data. -/
def WidensError (error : ControlError) (wide : Json) : Prop :=
  ∃ map data, wide = .object map ∧
    Keeps ["code", "message"] (SerStruct.members error) map ∧
    map.get? "data" = some data ∧ Widens error.data data

theorem WidensError.present {error : ControlError} {wide : Json}
    (widens : WidensError error wide) : wide ≠ .null := by
  rcases widens with ⟨map, _, rfl, _⟩
  exact nofun

theorem WidensError.self (error : ControlError) : WidensError error (toValue error) :=
  ⟨SerStruct.members error, toValue error.data, rfl, fun _ _ => rfl,
    SerStruct.get?_members error "data", Widens.self error.data⟩

theorem WidensError.read {error : ControlError} {wide : Json} (widens : WidensError error wide) :
    fromSource .value wide = .ok error := by
  rcases widens with ⟨map, data, rfl, keeps, isData, widensData⟩
  have code : map.get? "code" = some (toValue error.code) :=
    (keeps "code" (by decide)).trans (SerStruct.get?_members error "code")
  have message : map.get? "message" = some (toValue error.message) :=
    (keeps "message" (by decide)).trans (SerStruct.get?_members error "message")
  have reads : (DeStruct.fields (S := ControlError)).fromMap .value map =
      .ok (error.code, error.message, error.data, ()) := by
    refine (Fields.fromMap_eq_ok_iff ..).mpr ⟨?_, ?_, ?_, trivial⟩
    · show DeField.take _ _ (map.get? "code") = _
      rw [code]
      exact LawfulSerde.fromSource_toValue .value error.code
    · show DeField.take _ _ (map.get? "message") = _
      rw [message]
      exact LawfulSerde.fromSource_toValue .value error.message
    · show DeField.take _ _ (map.get? "data") = _
      rw [isData]
      exact widensData.read .value
  rw [fromSource_object, reads]
  rfl

theorem WidensError.read_option {error : ControlError} {wide : Json}
    (widens : WidensError error wide) :
    (fromSource .value wide : Except DeError (Option ControlError)) = .ok (some error) := by
  rw [fromSource_option_of_ne_null .value widens.present, widens.read]
  rfl

/-! ## Responses -/

section Responses

variable (env : Environment) {C : CallType}

/-- The JSON value is a result as it is written, or a typed result with more members. -/
inductive WidensResult (C : CallType) : Json → Json → Prop where
  | same (value : Json) : WidensResult C value value
  | typed {object : OpenObject C.Output} (shape : C.binding.shape = .typed object)
      (result : C.Output) {wide : Json} :
      Widens result wide → WidensResult C (toValue result) wide

/-- The JSON value is what the response is written as, perhaps with more members. -/
def WidensResponse (C : CallType) (response : JsonRpcResponse) (wide : Json) : Prop :=
  ∃ map, wide = .object map ∧ map.get? "jsonrpc" = some (toValue response.jsonrpc) ∧
    map.get? "id" = some (toValue response.id) ∧
    Option.Rel (WidensResult C) response.result (map.get? "result") ∧
    Option.Rel WidensError response.error (map.get? "error")

/-- A response may have any member besides its own. -/
theorem WidensResponse.insert (response : JsonRpcResponse) {key : String}
    (other : key ∉ ["jsonrpc", "id", "result", "error"]) (value : Json) :
    WidensResponse C response (.object ((SerStruct.members response).insert key value)) := by
  have kept (name : String) (named : name ∈ ["jsonrpc", "id", "result", "error"]) :
      ((SerStruct.members response).insert key value).get? name =
        SerStruct.fields.member (SerStruct.toTuple response) name := by
    have different : name ≠ key := fun same => other (same ▸ named)
    rw [BTreeMap.get?_insert, if_neg different, SerStruct.get?_members]
  refine ⟨_, rfl, kept "jsonrpc" (by decide), kept "id" (by decide), ?_, ?_⟩
  · rw [kept "result" (by decide)]
    rcases response with ⟨jsonrpc, id, result, error⟩
    cases result with
    | none => exact .none
    | some value => exact .some (.same value)
  · rw [kept "error" (by decide)]
    rcases response with ⟨jsonrpc, id, result, error⟩
    cases error with
    | none => exact .none
    | some error => exact .some (WidensError.self error)

/-- What a client makes of a response. -/
def readResponse (C : CallType) (json : Json) :
    Except DeError (RequestId × Except ControlError C.Output) := do
  let response : JsonRpcResponse ← fromValue json
  return (response.id, parseResponse env C.Params response)

/-- A response with more members is read with the result that is there. -/
theorem WidensResponse.read {response : JsonRpcResponse} {wide : Json}
    (widens : WidensResponse C response wide) :
    ∃ result, Option.Rel (WidensResult C) response.result result ∧
      fromValue wide = .ok { response with result := result.bind JsonRpcResponse.present } := by
  rcases response with ⟨protocol, requestId, written, failure⟩
  rcases widens with ⟨map, rfl, jsonrpc, id, result, error⟩
  refine ⟨map.get? "result", result, ?_⟩
  have readResult : (DeField.default "result" (none : Option Json)).take .value
      (map.get? "result") = .ok ((map.get? "result").bind JsonRpcResponse.present) := by
    cases map.get? "result" with
    | none => rfl
    | some value => exact JsonRpcResponse.fromSource_option_json value
  have readError : (DeField.default "error" (none : Option ControlError)).take .value
      (map.get? "error") = .ok failure := by
    generalize map.get? "error" = given at error
    cases error with
    | none => rfl
    | some widensError => exact widensError.read_option
  have reads : (DeStruct.fields (S := JsonRpcResponse)).fromMap .value map =
      .ok (protocol, requestId, (map.get? "result").bind JsonRpcResponse.present, failure, ()) := by
    refine (Fields.fromMap_eq_ok_iff ..).mpr ⟨?_, ?_, readResult, readError, trivial⟩
    · show DeField.take _ _ (map.get? "jsonrpc") = _
      rw [jsonrpc]
      exact LawfulSerde.fromSource_toValue .value protocol
    · show DeField.take _ _ (map.get? "id") = _
      rw [id]
      exact LawfulSerde.fromSource_toValue .value requestId
  rw [fromValue, fromSource_object, reads]
  rfl

theorem parseResponse_of_read (response : JsonRpcResponse) {value : Json} {result : C.Output}
    (present : value ≠ .null) (read : fromValue value = .ok result) :
    parseResponse env C.Params { response with
      result := (some value).bind JsonRpcResponse.present } = .ok result := by
  rw [parseResponse, Option.bind_some, JsonRpcResponse.present_of_ne_null present]
  show mapErr _ (fromValue value) = _
  rw [read]
  rfl

/-- A client makes the same of a response with more members. -/
theorem readResponse_of_widens {response : JsonRpcResponse} {wide : Json}
    (widens : WidensResponse C response wide) :
    readResponse env C wide = readResponse env C (toValue response) := by
  rcases widens.read with ⟨result, related, read⟩
  rw [readResponse, readResponse, read, JsonRpcResponse.fromValue_toValue]
  have same : parseResponse env C.Params
        { response with result := result.bind JsonRpcResponse.present } =
      parseResponse env C.Params
        { response with result := response.result.bind JsonRpcResponse.present } := by
    rcases response with ⟨_, _, written, _⟩
    cases related with
    | none => rfl
    | some widened =>
        cases widened with
        | same value => rfl
        | @typed object _ given _ widens =>
            have itself := Widens.self given
            exact (parseResponse_of_read env _ widens.present (widens.read .value)).trans
              (parseResponse_of_read env _ itself.present (itself.read .value)).symm
  exact congrArg (fun outcome => Except.ok (response.id, outcome)) same

end Responses

/-! ## Requests -/

section Requests

variable (env : Environment)

/-- The JSON value is what the request for a call is written as, perhaps with more members in
the request and in the params. -/
def WidensRequest {C : CallType} (id : RequestId) (call : C.Params) (wide : Json) : Prop :=
  ∃ map params, wide = .object map ∧
    Keeps ["jsonrpc", "id", "method"] (SerStruct.members (buildRequest id call)) map ∧
    map.get? "params" = some (.object params) ∧
    ∀ key ∈ C.declared env, params.get? key = (toValue call).member key

variable {env} {m : Type → Type} [Monad m] [LawfulMonad m] {C : CallType} {id : RequestId}
  {call : C.Params} {wide : Json}

/-- A request may have any member besides its own. -/
theorem WidensRequest.insert (id : RequestId) (call : C.Params) {key : String}
    (other : key ∉ ["jsonrpc", "id", "method", "params"]) (value : Json) :
    WidensRequest env id call
      (.object ((SerStruct.members (buildRequest id call)).insert key value)) := by
  rcases (C.binding.node env).toValue_object call with ⟨params, object⟩
  have written : toValue call = .object params := object
  have sent : (buildRequest id call).params = .object params :=
    (buildRequest_params env id C call).trans written
  have kept (name : String) (named : name ∈ ["jsonrpc", "id", "method", "params"]) :
      ((SerStruct.members (buildRequest id call)).insert key value).get? name =
        (SerStruct.members (buildRequest id call)).get? name := by
    have different : name ≠ key := fun same => other (same ▸ named)
    rw [BTreeMap.get?_insert, if_neg different]
  refine ⟨_, params, rfl, fun name named => ?_, ?_, fun name _ => ?_⟩
  · exact kept name (List.mem_append_left ["params"] named)
  · rw [kept "params" (by decide)]
    exact (SerStruct.get?_members (buildRequest id call) "params").trans (congrArg some sent)
  · rw [written, Json.member_object]

theorem WidensRequest.read (widens : WidensRequest env id call wide) :
    ∃ params : JsonMap, (∀ key ∈ C.declared env, params.get? key = (toValue call).member key) ∧
      fromValue wide = .ok { buildRequest id call with params := .object params } := by
  rcases widens with ⟨map, params, rfl, keeps, isParams, declared⟩
  refine ⟨params, declared, ?_⟩
  have kept (key : String) (named : key ∈ ["jsonrpc", "id", "method"]) :
      map.get? key = SerStruct.fields.member (SerStruct.toTuple (buildRequest id call)) key :=
    (keeps key named).trans (SerStruct.get?_members _ key)
  have reads : (DeStruct.fields (S := JsonRpcRequest)).fromMap .value map =
      .ok ((buildRequest id call).jsonrpc, id, C.method.name, .object params, ()) := by
    refine (Fields.fromMap_eq_ok_iff ..).mpr ⟨?_, ?_, ?_, ?_, trivial⟩
    · show DeField.take _ _ (map.get? "jsonrpc") = _
      rw [kept "jsonrpc" (by decide)]
      rfl
    · show DeField.take _ _ (map.get? "id") = _
      rw [kept "id" (by decide)]
      exact LawfulSerde.fromSource_toValue .value id
    · show DeField.take _ _ (map.get? "method") = _
      rw [kept "method" (by decide)]
      rfl
    · show DeField.take _ _ (map.get? "params") = _
      rw [isParams]
      rfl
  rw [fromValue, fromSource_object, reads]
  rfl

/-- A node does the same with a request with more members. -/
theorem dispatch_of_declared (handler : ControlHandler m) (id : RequestId) {params : JsonMap}
    (declared : ∀ key ∈ C.declared env, params.get? key = (toValue call).member key) :
    handler.dispatch env { buildRequest id call with params := .object params } =
      handler.dispatch env (buildRequest id call) := by
  rcases (C.binding.node env).toValue_object call with ⟨map, object⟩
  have written : toValue call = .object map := object
  have sent : (buildRequest id call).params = .object map :=
    (buildRequest_params env id C call).trans written
  have agree : ∀ key ∈ C.declared env, params.get? key = map.get? key := by
    intro key named
    rw [declared key named, written, Json.member_object]
  refine (dispatch_congr env handler (buildRequest id call) fun H named => ?_).trans
    (congrArg (fun params => handler.dispatch env { buildRequest id call with params }) sent.symm)
  obtain rfl : H = .bound C := HandlerMethod.name_injective named
  exact (C.binding.node env).accept_congr agree

end Requests

/-! ## Calls -/

/-- A relay that may add members to whatever it passes on. -/
structure Relay (env : Environment) (C : CallType) where
  carry : JsonRpcRequest → Json
  bringBack : JsonRpcResponse → Json
  widensRequest (id : RequestId) (call : C.Params) :
    WidensRequest env id call (carry (buildRequest id call))
  widensResponse (response : JsonRpcResponse) : WidensResponse C response (bringBack response)

/-- A relay that marks every request and every response. -/
def Relay.marking (env : Environment) (C : CallType) (mark : Json) : Relay env C where
  carry request := .object ((SerStruct.members request).insert "_mark" mark)
  bringBack response := .object ((SerStruct.members response).insert "_mark" mark)
  widensRequest id call := WidensRequest.insert id call (by decide) mark
  widensResponse response := WidensResponse.insert response (by decide) mark

/-- What a client has of a call over a relay. -/
def exchangeOver {m : Type → Type} [Monad m] {env : Environment} {C : CallType}
    (relay : Relay env C) (handler : ControlHandler m) (id : RequestId) (call : C.Params) :
    m (Except DeError (RequestId × Except ControlError C.Output)) :=
  match (fromValue (relay.carry (buildRequest id call)) : Except DeError JsonRpcRequest) with
  | .error error => pure (.error error)
  | .ok request => do
      let response ← handler.dispatch env request
      return readResponse env C (relay.bringBack response)

/-- Over a relay that adds members to requests, params, responses, typed results, errors and
their data, a call comes to what it comes to over one that adds none: the node makes the same
calls, and the client has the same outcome. -/
theorem exchange_widened {m : Type → Type} [Monad m] [LawfulMonad m] {env : Environment}
    {C : CallType} (relay : Relay env C) (handler : ControlHandler m) (id : RequestId)
    (call : C.Params) :
    exchangeOver relay handler id call = exchange env handler id C call := by
  rcases (relay.widensRequest id call).read with ⟨params, declared, read⟩
  have served := dispatch_of_declared handler id declared
  rw [exchangeOver, read]
  simp only [served]
  apply bind_congr
  intro response
  rw [readResponse_of_widens env (relay.widensResponse response)]
  rfl

theorem exchange_widened_setCap :
    exchangeOver (Relay.marking plainText .setCap (.bool true)) idleNode (.number 7) ⟨1024⟩ =
      exchange plainText idleNode (.number 7) .setCap ⟨1024⟩ :=
  exchange_widened (Relay.marking plainText .setCap (.bool true)) idleNode (.number 7) ⟨1024⟩

end ControlInterface
