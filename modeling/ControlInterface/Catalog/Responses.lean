import ControlInterface.Catalog.Transport

/-!
# What a response says

A response that a client reads need not be one a node of this catalog has built.  This
module says for every object that decodes as a response which of its two members the
client goes by, and for every request which id its response carries.
-/

namespace ControlInterface

open Serde ControlHandler

/-! ## The two members -/

/-- The object has the member, and it is not `null`. -/
def Gives (map : JsonMap) (key : String) : Prop :=
  ∃ given, map.get? key = some given ∧ given ≠ .null

/-- The object has a result that the client of the call type can read. -/
def GivesOutput (C : CallType) (map : JsonMap) : Prop :=
  ∃ given, map.get? "result" = some given ∧ given ≠ .null ∧
    ∃ output : C.Output, fromValue given = .ok output

section Client

variable {env : Environment} {C : CallType} {map : JsonMap} {response : JsonRpcResponse}

theorem JsonRpcResponse.reads_of_fromValue (read : fromValue (.object map) = .ok response) :
    (DeStruct.fields (S := JsonRpcResponse)).Reads .value map
      (response.jsonrpc, response.id, response.result, response.error, ()) := by
  rw [fromValue, fromSource_object, map_eq_ok] at read
  rcases read with ⟨raw, readRaw, rfl⟩
  exact (Fields.fromMap_eq_ok_iff ..).mp readRaw

/-- The result of a decoded response is the member, unless that is `null`. -/
theorem JsonRpcResponse.result_eq_some_iff (read : fromValue (.object map) = .ok response)
    {value : Json} :
    response.result = some value ↔ map.get? "result" = some value ∧ value ≠ .null := by
  have taken := (JsonRpcResponse.reads_of_fromValue read).2.2.1
  rw [DeField.eq_some_iff_of_take_default taken]
  constructor
  · intro member
    rcases member with ⟨_, given, present, ⟨⟩⟩
    exact ⟨given, present⟩
  · intro member
    exact ⟨value, member.1, member.2, rfl⟩

/-- A client has a result exactly when the response has one that it can read, whatever the
error. -/
theorem parseResponse_eq_ok_iff {output : C.Output} :
    parseResponse env C.Params response = .ok output ↔
      ∃ value, response.result = some value ∧ fromValue value = .ok output := by
  rw [parseResponse, bind_eq_ok]
  simp only [mapErr_eq_ok_iff]
  apply exists_congr
  intro value
  apply and_congr_left
  intro _
  rcases response with ⟨_, _, result, error⟩
  cases result with
  | some value => simp [JsonRpcResponse.intoResult]
  | none => cases error <;> simp [JsonRpcResponse.intoResult]

/-- A client of the call type takes the response for a failure whenever it carries an error,
and for a success only if it carries a result and no error. -/
def ErrorWins (env : Environment) (C : CallType) (map : JsonMap) (response : JsonRpcResponse) :
    Prop :=
  (∀ given (error : ControlError), map.get? "error" = some given → fromValue given = .ok error →
    ∀ output, parseResponse env C.Params response ≠ .ok output) ∧
  ∀ output, parseResponse env C.Params response = .ok output →
    Gives map "result" ∧ ¬Gives map "error"

/-- The error of a response wins exactly when it does not come with a result that the client
can read. -/
theorem errorWins_iff (read : fromValue (.object map) = .ok response) :
    ErrorWins env C map response ↔ ¬(Gives map "error" ∧ GivesOutput C map) := by
  constructor
  · intro wins both
    rcases both with ⟨failed, result, member, present, output, readOutput⟩
    have parsed : parseResponse env C.Params response = .ok output :=
      parseResponse_eq_ok_iff.mpr
        ⟨result, (JsonRpcResponse.result_eq_some_iff read).mpr ⟨member, present⟩, readOutput⟩
    exact (wins.2 output parsed).2 failed
  · intro apart
    have alone {output : C.Output} (parsed : parseResponse env C.Params response = .ok output) :
        Gives map "result" ∧ ¬Gives map "error" := by
      rcases parseResponse_eq_ok_iff.mp parsed with ⟨value, has, readOutput⟩
      rcases (JsonRpcResponse.result_eq_some_iff read).mp has with ⟨member, present⟩
      exact ⟨⟨value, member, present⟩,
        fun failed => apart ⟨failed, value, member, present, output, readOutput⟩⟩
    constructor
    · intro given error member readError output parsed
      refine (alone parsed).2 ⟨given, member, ?_⟩
      intro null
      subst null
      cases readError
    · intro output parsed
      exact alone parsed

/-- A refusal of a broadcast that also carries the result of one. -/
def disputedBroadcast : JsonRpcResponse where
  jsonrpc := "2.0"
  id := .number 1
  result := some (toValue (⟨true, some "9b", none⟩ : WalletBroadcastResult))
  error := some (.of .walletCoinsReserved "the coins are reserved")

theorem errorWins_disputedBroadcast :
    ErrorWins plainText .walletBroadcast (SerStruct.members disputedBroadcast)
        disputedBroadcast ↔
      ¬(Gives (SerStruct.members disputedBroadcast) "error" ∧
        GivesOutput .walletBroadcast (SerStruct.members disputedBroadcast)) :=
  errorWins_iff (JsonRpcResponse.fromValue_toValue disputedBroadcast)

/-- The refusal reads as a success. -/
theorem disputedBroadcast_parsed_as_success :
    fromValue (.object (SerStruct.members disputedBroadcast)) = .ok disputedBroadcast ∧
      (SerStruct.members disputedBroadcast).get? "error" =
        some (toValue (ControlError.of .walletCoinsReserved "the coins are reserved")) ∧
      parseResponse plainText WalletBroadcastParams disputedBroadcast =
        .ok ⟨true, some "9b", none⟩ := by
  refine ⟨JsonRpcResponse.fromValue_toValue disputedBroadcast, ?_, ?_⟩
  · rw [SerStruct.get?_members]
    rfl
  · rfl

end Client

/-! ## The id -/

/-- The object is a request with the given id. -/
structure RequestObject (map : JsonMap) (id : Json) : Prop where
  jsonrpc : ∃ version, map.get? "jsonrpc" = some (.string version)
  id : map.get? "id" = some id
  method : ∃ name, map.get? "method" = some (.string name)
  params : ∃ params, map.get? "params" = some params

/-- The ids of the protocol. -/
inductive LegalId : Json → Prop where
  | number (value : Number) : LegalId (.number value)
  | string (value : String) : LegalId (.string value)
  | null : LegalId .null

/-- The id is not a number, or is a signed integer of 64 bits. -/
def FitsInt64 (id : Json) : Prop :=
  ∀ number, id = .number number → ∃ value : WireInt, number = .int value ∧ value.1 < 2 ^ 63

/-- The object decodes as a request, and every response a node gives to that is written with
the id of the object. -/
def Echoed (env : Environment) (map : JsonMap) (id : Json) : Prop :=
  ∃ request : JsonRpcRequest, fromValue (.object map) = .ok request ∧
    ∀ (m : Type → Type) [Monad m] [LawfulMonad m] (handler : ControlHandler m),
      (fun response => (toValue response).member "id") <$> handler.dispatch env request =
        (fun _ => some id) <$> handler.dispatch env request

section Id

variable {env : Environment} {map : JsonMap} {id : Json}

/-- The legal ids that are written for some request id. -/
theorem exists_toValue_iff (legal : LegalId id) :
    (∃ given : RequestId, toValue given = id) ↔ FitsInt64 id := by
  constructor
  · intro written
    rcases written with ⟨given, rfl⟩
    intro number same
    cases given with
    | number value =>
        cases same
        exact ⟨_, rfl, value.toInt_lt⟩
    | string => cases same
    | null => cases same
  · intro fits
    cases legal with
    | number value =>
        rcases fits value rfl with ⟨integer, rfl, below⟩
        refine ⟨.number (Int64.ofInt integer.1), ?_⟩
        have same : (Int64.ofInt integer.1).toInt = integer.1 :=
          Int64.toInt_ofInt_of_le integer.2.1 below
        simp only [toValue, same]
    | string value => exact ⟨.string value, rfl⟩
    | null => exact ⟨.null, rfl⟩

/-- A request object decodes to a request with an id that is written as the id of the
object. -/
theorem RequestObject.fromValue_iff (object : RequestObject map id) {given : RequestId} :
    (∃ request : JsonRpcRequest, fromValue (.object map) = .ok request ∧ request.id = given) ↔
      toValue given = id := by
  constructor
  · intro decoded
    rcases decoded with ⟨request, read, rfl⟩
    rcases DeriveStruct.filled_of_object read with ⟨raw, filled, rfl⟩
    exact (RequestId.fromSource_eq_ok_iff.mp (filled.2.1.read object.id)).symm
  · intro written
    rcases object.jsonrpc with ⟨version, jsonrpc⟩
    rcases object.method with ⟨name, method⟩
    rcases object.params with ⟨params, hasParams⟩
    refine ⟨⟨version, given, name, params⟩, ?_, rfl⟩
    have reads : (DeStruct.fields (S := JsonRpcRequest)).fromMap .value map =
        .ok (version, given, name, params, ()) := by
      rw [Fields.fromMap_eq_ok_iff]
      refine ⟨?_, ?_, ?_, ?_, trivial⟩
      · simp only [DeField.take, DeField.plain, jsonrpc]
        rfl
      · simp only [DeField.take, DeField.plain, object.id, ← written]
        exact LawfulSerde.fromSource_toValue .value given
      · simp only [DeField.take, DeField.plain, method]
        rfl
      · simp only [DeField.take, DeField.plain, hasParams]
        rfl
    exact (fromSource_object .value map).trans (by rw [reads]; rfl)

theorem JsonRpcResponse.member_id (response : JsonRpcResponse) :
    (toValue response).member "id" = some (toValue response.id) := by
  have object : toValue response = .object (SerStruct.members response) := rfl
  rw [object, Json.member_object, SerStruct.get?_members]
  rfl

/-- Every response of a node carries the id of the request. -/
theorem dispatch_id {m : Type → Type} [Monad m] [LawfulMonad m] (handler : ControlHandler m)
    (request : JsonRpcRequest) :
    (fun response => (toValue response).member "id") <$> handler.dispatch env request =
      (fun _ => some (toValue request.id)) <$> handler.dispatch env request := by
  by_cases uncatalogued : Uncatalogued request.method
  · rw [dispatch_uncatalogued env handler request uncatalogued, map_pure, map_pure,
      JsonRpcResponse.member_id]
    rfl
  · rcases exists_handlerMethod uncatalogued with ⟨H, named⟩
    rw [dispatch_catalogued env handler request named, map_bind, map_bind]
    apply bind_congr
    intro outcome
    cases outcome <;> simp only [map_pure, JsonRpcResponse.member_id] <;> rfl

/-- A legal id is echoed exactly when it is not a number out of the range of a signed
integer of 64 bits. -/
theorem echoed_iff (object : RequestObject map id) (legal : LegalId id) :
    Echoed env map id ↔ FitsInt64 id := by
  rw [← exists_toValue_iff legal]
  constructor
  · intro echoed
    rcases echoed with ⟨request, read, _⟩
    exact ⟨request.id, object.fromValue_iff.mp ⟨request, read, rfl⟩⟩
  · intro written
    rcases written with ⟨given, written⟩
    rcases object.fromValue_iff.mpr written with ⟨request, read, rfl⟩
    refine ⟨request, read, ?_⟩
    intro m _ _ handler
    rw [← written]
    exact dispatch_id handler request

/-- The first integer that is not a signed one of 64 bits. -/
def largeId : Json := .number (.int ⟨2 ^ 63, by decide, by decide⟩)

/-- A request with that id. -/
def largeIdRequest : JsonMap :=
  .ofList [("jsonrpc", .string "2.0"), ("id", largeId), ("method", .string "control.status"),
    ("params", .object .empty)]

theorem echoed_largeIdRequest : Echoed plainText largeIdRequest largeId ↔ FitsInt64 largeId :=
  echoed_iff ⟨⟨_, by rfl⟩, by rfl, ⟨_, by rfl⟩, ⟨_, by rfl⟩⟩ (.number _)

/-- It is a request of the protocol, and it is not even decoded. -/
theorem largeIdRequest_not_decoded :
    RequestObject largeIdRequest largeId ∧ LegalId largeId ∧
      ∀ request : JsonRpcRequest, fromValue (.object largeIdRequest) ≠ .ok request := by
  have object : RequestObject largeIdRequest largeId :=
    ⟨⟨_, by rfl⟩, by rfl, ⟨_, by rfl⟩, ⟨_, by rfl⟩⟩
  refine ⟨object, .number _, ?_⟩
  intro request read
  have fits := (exists_toValue_iff (.number _)).mp ⟨_, object.fromValue_iff.mp ⟨_, read, rfl⟩⟩
  rcases fits _ rfl with ⟨value, same, below⟩
  cases same
  exact absurd below (by decide)

end Id

end ControlInterface
