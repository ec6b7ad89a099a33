import ControlInterface.Catalog.Routing

/-!
# What a handler method is called with

The bounds on the params of each handler method, which hold whenever it is called, and
the cursors that are refused rather than taken for absent ones.
-/

namespace ControlInterface

open Serde ControlHandler

/-! ## Contracts -/

/-- The params of a call are within the bounds of its handler method. -/
def HandlerCall.InContract (env : Environment) : HandlerCall → Prop
  | ⟨.bound .walletCoinById, (params : WalletCoinByIdParams)⟩ => CanonicalHex 64 params.coinId
  | ⟨.bound .walletCoinSpend, (params : WalletCoinSpendParams)⟩ => CanonicalHex 64 params.coinId
  | ⟨.bound .walletCoinsByParent, (params : WalletCoinsByParentParams)⟩ =>
      CanonicalHex 64 params.parentCoinId ∧ (∀ id ∈ params.afterCoinId, CanonicalHex 64 id) ∧
        LimitWithin 1000 params.limit ∧
        1 ≤ params.effectiveLimit ∧ params.effectiveLimit ≤ 1000
  | ⟨.bound .walletCoins, (params : WalletCoinsParams)⟩ =>
      (∀ id ∈ params.afterCoinId, CanonicalHex 64 id) ∧ LimitWithin 1000 params.limit ∧
        1 ≤ params.effectiveLimit ∧ params.effectiveLimit ≤ 1000
  | ⟨.bound .walletReservationsReserve, (params : WalletReservationsReserveParams)⟩ =>
      ∀ id ∈ params.coinIds, CanonicalHex 64 id
  | ⟨.bound .mirrorBondStates, (params : MirrorBondStatesParams)⟩ =>
      (∀ key ∈ params.after, CanonicalHex 64 key.storeId ∧ CanonicalHex 64 key.root) ∧
        LimitWithin 1000 params.limit ∧
        1 ≤ params.effectiveLimit ∧ params.effectiveLimit ≤ 1000
  | ⟨.bound .walletWatch, (params : WalletWatchParams)⟩ =>
      ∀ key ∈ params.publicKeys, CanonicalHex 96 key
  | ⟨.bound .walletUnwatch, (params : WalletUnwatchParams)⟩ =>
      ∀ key ∈ params.publicKeys, CanonicalHex 96 key
  | ⟨.bound .spendsList, (params : SpendsListParams)⟩ =>
      LimitWithin 500 params.limit ∧ 1 ≤ params.effectiveLimit ∧ params.effectiveLimit ≤ 500
  | ⟨.bound .collateralMarginSet, (params : CollateralMarginSetParams)⟩ =>
      params.marginBp ≤ 10000
  | ⟨.bound .setMirrorAdvertiseUrls, (params : SetMirrorAdvertiseUrlsParams)⟩ =>
      ∀ urls ∈ params.urls, urls ≠ [] ∧ ∀ url ∈ urls, ∃ host, env.urlParse url = some (some host)
  | _ => True

/-- Accepted params are within the bounds. -/
theorem HandlerCall.inContract_of_accept {env : Environment} {C : CallType} {json : Json}
    {params : C.Params} (accepted : C.accept env json = .ok params) :
    HandlerCall.InContract env ⟨.bound C, params⟩ := by
  have validated : C.validated env params = .ok params :=
    (C.binding.node env).validated_of_accept accepted
  cases C with
  | walletCoinById => exact SelfValidating.contract (S := WalletCoinByIdParams) validated
  | walletCoinSpend => exact SelfValidating.contract (S := WalletCoinSpendParams) validated
  | walletCoinsByParent =>
      obtain ⟨parent, cursor, within⟩ :=
        SelfValidating.contract (S := WalletCoinsByParentParams) validated
      exact ⟨parent, cursor, within, within.getD (by decide)⟩
  | walletCoins =>
      obtain ⟨cursor, within⟩ := SelfValidating.contract (S := WalletCoinsParams) validated
      exact ⟨cursor, within, within.getD (by decide)⟩
  | walletReservationsReserve =>
      exact SelfValidating.contract (S := WalletReservationsReserveParams) validated
  | mirrorBondStates =>
      obtain ⟨cursor, within⟩ := SelfValidating.contract (S := MirrorBondStatesParams) validated
      exact ⟨cursor, within, within.getD (by decide)⟩
  | walletWatch => exact SelfValidating.contract (S := WalletWatchParams) validated
  | walletUnwatch => exact SelfValidating.contract (S := WalletUnwatchParams) validated
  | spendsList =>
      have within := SelfValidating.contract (S := SpendsListParams) validated
      exact ⟨within, LimitWithin.getD within (by decide)⟩
  | collateralMarginSet => exact (CollateralMarginSetParams.validated_eq_ok_iff.mp validated).2
  | setMirrorAdvertiseUrls =>
      exact (SetMirrorAdvertiseUrlsParams.validated_eq_ok_iff.mp validated).2
  | _ => trivial

/-! ## Cursors -/

/-- The text of a coin id, with or without a prefix. -/
def IsCoinIdText (json : Json) : Prop :=
  ∃ text, json = .string text ∧
    (CanonicalHex 64 text ∨ ∃ digits, text = "0x" ++ digits ∧ CanonicalHex 64 digits)

/-- The key of a mirror bond, as an object or as a sequence of its two halves. -/
def IsBondKey (json : Json) : Prop :=
  ∃ storeId root, IsCoinIdText storeId ∧ IsCoinIdText root ∧
    ((∃ map, json = .object map ∧ map.get? "store_id" = some storeId ∧
        map.get? "root" = some root) ∨
      json = .array [storeId, root])

/-- A cursor is there, is not `null`, and is not of the given form. -/
def Malformed (form : Json → Prop) (cursor : Option Json) : Prop :=
  ∃ given, cursor = some given ∧ given ≠ .null ∧ ¬form given

/-- The params hold a malformed cursor: under its name, or at its position in a sequence. -/
def CallType.MalformedCursor : CallType → Json → Prop
  | .walletCoins, params =>
      Malformed IsCoinIdText
        (Json.supplied ["address", "asset", "after_coin_id", "limit"] params "after_coin_id")
  | .walletCoinsByParent, params =>
      Malformed IsCoinIdText
        (Json.supplied ["parent_coin_id", "after_coin_id", "limit"] params "after_coin_id")
  | .mirrorBondStates, params =>
      Malformed IsBondKey (Json.supplied ["after", "limit"] params "after")
  | .spendsList, params =>
      Malformed (fun cursor => ∃ text, cursor = .string text)
        (Json.supplied ["since_ms", "until_ms", "store_id", "kind", "status", "after_id", "limit"]
          params "after_id")
  | .walletArrivals, params =>
      Malformed (fun cursor => ∃ number : WireInt, cursor = .number (.int number) ∧ 0 ≤ number.1)
        (Json.supplied ["after_seq", "limit"] params "after_seq")
  | _, _ => False

/-- A text that is normalized is the text of a coin id. -/
theorem isCoinIdText_of_normalize {text normalized : String}
    (normal : normalizeCoinId text = some normalized) : IsCoinIdText (.string text) := by
  rcases normalizeHex_eq_some_iff.mp normal with ⟨rfl, canonical⟩
  refine ⟨text, rfl, ?_⟩
  rcases Text.eq_or_eq_prefixed text with same | prefixed
  · exact .inl (same ▸ canonical)
  · exact .inr ⟨_, prefixed, canonical⟩

/-- A cursor that is there and is not `null` is read as a value. -/
theorem exists_read_of_present {α : Type} [Deserialize α] {source : Source} {given : Json}
    (present : given ≠ .null) {cursor : Option α} (read : fromSource source given = .ok cursor) :
    ∃ value, fromSource source given = .ok value ∧ cursor = some value := by
  rw [fromSource_option_of_ne_null source present] at read
  rcases map_eq_ok.mp read with ⟨value, readValue, rfl⟩
  exact ⟨value, readValue, rfl⟩

section Forms

variable {env : Environment} {json : Json}

theorem isCoinIdText_of_normalCursor {given : Json} (present : given ≠ .null)
    {cursor result : Option String} (read : fromSource .value given = .ok cursor)
    (normal : NormalCursor cursor result) : IsCoinIdText given := by
  rcases exists_read_of_present present read with ⟨text, readText, rfl⟩
  obtain rfl := fromSource_string_eq_ok.mp readText
  cases normal with
  | some normalized => exact isCoinIdText_of_normalize normalized

/-- What accepted params of a type that validates itself were read of. -/
theorem exists_filled_of_accept {S : Type} [SelfValidating S] {params : S}
    (accepted : (NodeParams.selfValidating env S).accept json = .ok params) :
    ∃ raw, (ShadowStruct.de (S := S)).Filled .value
        (Json.supplied (ShadowStruct.de (S := S)).declared json) raw ∧
      ShadowStruct.check raw = .ok params := by
  have read : decode env json = .ok params := by
    rw [← SelfValidating.decode_bind_validated]
    exact accepted
  exact ShadowStruct.exists_filled (decode_eq_ok_iff.mp read)

theorem isBondKey_of_normalAfter {given : Json} (present : given ≠ .null)
    {cursor result : Option MirrorBondKey} (read : fromSource .value given = .ok cursor)
    (normal : MirrorBondStatesParams.NormalAfter cursor result) : IsBondKey given := by
  rcases exists_read_of_present present read with ⟨key, readKey, rfl⟩
  obtain ⟨⟨storeId, root, _⟩, ⟨fillsStoreId, fillsRoot, _⟩, short, rfl⟩ :=
    DeriveStruct.exists_filled readKey
  rcases fillsStoreId.exists_given rfl rfl with ⟨store, suppliedStore, readStore⟩
  rcases fillsRoot.exists_given rfl rfl with ⟨rootGiven, suppliedRoot, readRoot⟩
  obtain rfl := fromSource_string_eq_ok.mp readStore
  obtain rfl := fromSource_string_eq_ok.mp readRoot
  cases normal with
  | some normalized =>
      refine ⟨.string storeId, .string root, isCoinIdText_of_normalize normalized.1,
        isCoinIdText_of_normalize normalized.2, ?_⟩
      cases given with
      | object map =>
          rw [Json.supplied_object] at suppliedStore suppliedRoot
          exact .inl ⟨map, rfl, suppliedStore, suppliedRoot⟩
      | array elements =>
          have count : elements.length ≤ 2 := short elements rfl
          have first : elements[0]? = some (.string storeId) := suppliedStore
          have second : elements[1]? = some (.string root) := suppliedRoot
          refine .inr (congrArg Json.array ?_)
          match elements with
          | [left, right] => simp_all only [List.getElem?_cons_zero, List.getElem?_cons_succ,
              Option.some.injEq]
          | [] | [_] => simp at second
          | _ :: _ :: _ :: _ => simp at count
      | _ => cases suppliedStore

/-- Params with a malformed cursor are not accepted. -/
theorem CallType.not_malformedCursor_of_accept {C : CallType} {params : C.Params}
    (accepted : C.accept env json = .ok params) : ¬C.MalformedCursor json := by
  cases C with
  | walletCoins =>
      intro cursor
      rcases cursor with ⟨given, supplied, present, malformed⟩
      obtain ⟨⟨_, _, cursor, _, _⟩, ⟨_, _, fills, _⟩, checked⟩ :=
        exists_filled_of_accept (S := WalletCoinsParams) accepted
      rcases WalletCoinsParams.normalize_eq_ok_iff.mp checked with ⟨_, ⟨normal, _⟩, _⟩
      exact malformed (isCoinIdText_of_normalCursor present (fills.read supplied) normal)
  | walletCoinsByParent =>
      intro cursor
      rcases cursor with ⟨given, supplied, present, malformed⟩
      obtain ⟨⟨_, cursor, _, _⟩, ⟨_, fills, _⟩, checked⟩ :=
        exists_filled_of_accept (S := WalletCoinsByParentParams) accepted
      rcases WalletCoinsByParentParams.normalize_eq_ok_iff.mp checked with ⟨_, _, _, ⟨normal, _⟩, _⟩
      exact malformed (isCoinIdText_of_normalCursor present (fills.read supplied) normal)
  | mirrorBondStates =>
      intro cursor
      rcases cursor with ⟨given, supplied, present, malformed⟩
      obtain ⟨⟨cursor, _, _⟩, ⟨fills, _⟩, checked⟩ :=
        exists_filled_of_accept (S := MirrorBondStatesParams) accepted
      obtain ⟨_, _, normal, _⟩ :=
        MirrorBondStatesParams.validated_eq_ok_iff.mp (mapErr_eq_ok_iff.mp checked)
      exact malformed (isBondKey_of_normalAfter present (fills.read supplied) normal)
  | spendsList =>
      intro cursor
      rcases cursor with ⟨given, supplied, present, malformed⟩
      obtain ⟨⟨_, _, _, _, _, cursor, _, _⟩, ⟨_, _, _, _, _, fills, _⟩, _⟩ :=
        exists_filled_of_accept (S := SpendsListParams) accepted
      rcases exists_read_of_present present (fills.read supplied) with ⟨text, read, _⟩
      exact malformed ⟨text, fromSource_string_eq_ok.mp read⟩
  | walletArrivals =>
      intro cursor
      rcases cursor with ⟨given, supplied, present, malformed⟩
      obtain ⟨⟨cursor, _, _⟩, ⟨fills, _⟩, _⟩ :=
        DeriveStruct.exists_filled (decode_eq_ok_iff.mp accepted)
      exact malformed (Unsigned.exists_number (fills.read supplied))
  | _ => exact id

end Forms

/-! ## Every run -/

section Runs

variable {m : Type → Type} [Monad m] [LawfulMonad m] (env : Environment)
  (handler : ControlHandler m) (request : JsonRpcRequest)

/-- Whenever a handler method is called its params are within its bounds, and a request
with a malformed cursor is refused without a call. -/
theorem calls_inContract :
    ∃ calls : List HandlerCall,
      recordedRun env handler request =
          (fun response => (response, calls)) <$> handler.dispatch env request ∧
        calls.length ≤ 1 ∧ (∀ call ∈ calls, call.InContract env) ∧
        ∀ C : CallType, C.method.name = request.method → C.MalformedCursor request.params →
          calls = [] ∧ ∃ error, IsRefusal error ∧
            handler.dispatch env request = pure (.failure request.id error) := by
  by_cases uncatalogued : Uncatalogued request.method
  · refine ⟨[], ?_, Nat.zero_le 1, by simp, fun C named => absurd named (uncatalogued C.method)⟩
    rw [recordedRun_uncatalogued env handler request uncatalogued,
      dispatch_uncatalogued env handler request uncatalogued, map_pure]
  · rcases exists_handlerMethod uncatalogued with ⟨H, named⟩
    have bound {C : CallType} (called : C.method.name = request.method) : H = .bound C :=
      HandlerMethod.name_injective (named.trans called.symm)
    cases outcome : H.accept env request.params with
    | error error =>
        have refused := dispatch_refused env handler request named outcome
        refine ⟨[], ?_, Nat.zero_le 1, by simp, fun C called _ => ⟨rfl, error, ?_, refused⟩⟩
        · rw [recordedRun_refused env handler request named outcome, refused, map_pure]
        · obtain rfl := bound called
          exact (C.binding.node env).isRefusal outcome
    | ok params =>
        refine ⟨[⟨H, params⟩], ?_, le_refl 1, ?_, ?_⟩
        · rw [recordedRun_accepted env handler request named outcome,
            dispatch_accepted env handler request named outcome, Functor.map_map]
        · rw [List.forall_mem_singleton]
          cases H with
          | bound C => exact HandlerCall.inContract_of_accept outcome
          | chiaPeersList => trivial
        · intro C called malformed
          obtain rfl := bound called
          exact absurd malformed (CallType.not_malformedCursor_of_accept outcome)

theorem calls_inContract_coins :
    let request : JsonRpcRequest :=
      ⟨"2.0", .number 1, "control.wallet.coins",
        .array [.string "xch1", .string "xch", .string "0x"]⟩
    ∃ calls : List HandlerCall,
      recordedRun plainText idleNode request =
          (fun response => (response, calls)) <$> idleNode.dispatch plainText request ∧
        calls.length ≤ 1 ∧ (∀ call ∈ calls, call.InContract plainText) ∧
        ∀ C : CallType, C.method.name = request.method → C.MalformedCursor request.params →
          calls = [] ∧ ∃ error, IsRefusal error ∧
            idleNode.dispatch plainText request = pure (.failure request.id error) :=
  calls_inContract plainText idleNode _

end Runs

end ControlInterface
