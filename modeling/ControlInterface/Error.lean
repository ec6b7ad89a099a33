import ControlInterface.Serde.Enum

/-!
# Control errors

The stable error codes of the control interface and the error object that carries
one of them over the wire.
-/

namespace ControlInterface

open Serde

/-- The codes a control call can fail with. -/
inductive ControlErrorCode where
  | parseError
  | invalidRequest
  | methodNotFound
  | invalidParams
  | dispatchFailed
  | unauthorized
  | notSupported
  | controlError
  | walletNoChainSource
  | walletNotSynced
  | walletReadFailed
  | walletRateLimited
  | walletNodeSpendDisabled
  | walletCoinsReserved
  | walletReservationsUnavailable
  | spendAuditUnreadable
  deriving DecidableEq

namespace ControlErrorCode

/-- The JSON-RPC error number. -/
def code : ControlErrorCode → Int64
  | .parseError => -32700
  | .invalidRequest => -32600
  | .methodNotFound => -32601
  | .invalidParams => -32602
  | .dispatchFailed => -32000
  | .unauthorized => -32030
  | .notSupported => -32031
  | .controlError => -32032
  | .walletNoChainSource => -32040
  | .walletNotSynced => -32041
  | .walletReadFailed => -32042
  | .walletRateLimited => -32043
  | .walletNodeSpendDisabled => -32044
  | .walletCoinsReserved => -32046
  | .walletReservationsUnavailable => -32047
  | .spendAuditUnreadable => -32048

/-- The symbolic name a client branches on. -/
def name : ControlErrorCode → String
  | .parseError => "PARSE_ERROR"
  | .invalidRequest => "INVALID_REQUEST"
  | .methodNotFound => "METHOD_NOT_FOUND"
  | .invalidParams => "INVALID_PARAMS"
  | .dispatchFailed => "DISPATCH_FAILED"
  | .unauthorized => "UNAUTHORIZED"
  | .notSupported => "NOT_SUPPORTED"
  | .controlError => "CONTROL_ERROR"
  | .walletNoChainSource => "WALLET_NO_CHAIN_SOURCE"
  | .walletNotSynced => "WALLET_NOT_SYNCED"
  | .walletReadFailed => "WALLET_READ_FAILED"
  | .walletRateLimited => "WALLET_RATE_LIMITED"
  | .walletNodeSpendDisabled => "WALLET_NODE_SPEND_DISABLED"
  | .walletCoinsReserved => "WALLET_COINS_RESERVED"
  | .walletReservationsUnavailable => "WALLET_RESERVATIONS_UNAVAILABLE"
  | .spendAuditUnreadable => "SPEND_AUDIT_UNREADABLE"

/-- The layer an error of this code comes from. -/
def origin : ControlErrorCode → String
  | .methodNotFound => "boundary"
  | .invalidParams
  | .walletNoChainSource
  | .walletNotSynced
  | .walletReadFailed
  | .walletRateLimited
  | .walletNodeSpendDisabled
  | .walletCoinsReserved
  | .walletReservationsUnavailable => "node"
  | _ => "shell"

def all : List ControlErrorCode :=
  [.parseError, .invalidRequest, .methodNotFound, .invalidParams, .dispatchFailed,
    .unauthorized, .notSupported, .controlError, .walletNoChainSource, .walletNotSynced,
    .walletReadFailed, .walletRateLimited, .walletNodeSpendDisabled, .walletCoinsReserved,
    .walletReservationsUnavailable, .spendAuditUnreadable]

/-- The code with the given number. -/
def fromCode (code : Int64) : Option ControlErrorCode :=
  all.find? fun candidate => candidate.code == code

theorem mem_all (code : ControlErrorCode) : code ∈ all := by
  cases code <;> decide

theorem code_nodup : (all.map code).Nodup := by decide

theorem fromCode_eq_some_iff {number : Int64} {value : ControlErrorCode} :
    fromCode number = some value ↔ value.code = number :=
  find?_eq_some_iff code_nodup mem_all

end ControlErrorCode

/-- The symbolic part of an error object. -/
@[ext] structure ControlErrorData where
  code : String
  origin : String
  deriving DecidableEq

instance : DeriveStruct ControlErrorData where
  name := "ControlErrorData"
  types := [String, String]
  fields := .plain "code" <| .plain "origin" .nil
  equiv := ⟨fun data => (data.code, data.origin, ()), fun (code, origin, ()) => ⟨code, origin⟩,
    fun _ => rfl, fun _ => rfl⟩

/-- The error object of a response. -/
@[ext] structure ControlError where
  code : Int64
  message : String
  data : ControlErrorData
  deriving DecidableEq

instance : DeriveStruct ControlError where
  name := "ControlError"
  types := [Int64, String, ControlErrorData]
  fields := .plain "code" <| .plain "message" <| .plain "data" .nil
  equiv := ⟨fun error => (error.code, error.message, error.data, ()),
    fun (code, message, data, ()) => ⟨code, message, data⟩, fun _ => rfl, fun _ => rfl⟩

namespace ControlError

/-- An error with a code of the catalog. -/
def of (code : ControlErrorCode) (message : String) : ControlError where
  code := code.code
  message := message
  data := { code := code.name, origin := code.origin }

/-- The code of the catalog an error carries, if it carries one. -/
def codeEnum (error : ControlError) : Option ControlErrorCode :=
  ControlErrorCode.fromCode error.code

@[simp] theorem codeEnum_of (code : ControlErrorCode) (message : String) :
    (of code message).codeEnum = some code :=
  ControlErrorCode.fromCode_eq_some_iff.mpr rfl

/-- The `Display` text of an error. -/
def display (error : ControlError) : String :=
  error.data.code ++ " (" ++ toString error.code ++ "): " ++ error.message

end ControlError

end ControlInterface
