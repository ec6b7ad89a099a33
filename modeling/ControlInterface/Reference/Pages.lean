import ControlInterface.Catalog.Walks
import ControlInterface.Text.Collation

/-!
# Pages of coins

The reference node serves the coins of an address, and those of a parent, page by page in
the order of their ids.  A client that resumes from the cursor of each page meets every coin
once, though the coins may be others at every request.
-/

namespace ControlInterface

open Serde ControlHandler Text PageSource Paging

namespace MockNode

/-! ## The handler methods -/

/-- A digit pair as often as an id has bytes. -/
def repeated (pair : String) : String := .ofList (List.replicate 32 pair.toList).flatten

/-- The coin whose children the node knows. -/
def spentCoin : String := repeated "ab"

/-- The ids of a page, and whether it is the last one: those up to the cursor are skipped,
and one more is looked at than the page holds. -/
abbrev idsAfter (limit : UInt32) (ids : List String) : Source String String :=
  skipping id compareText limit.toNat ids

/-- The coins of an address, of which the node has the given ones. -/
def walletCoins (addressCoins : List String) (params : WalletCoinsParams) : WalletCoinsResult :=
  let amount := match params.asset with
    | .xch => 1
    | asset => if asset.isDig then 2 else 3
  let page := idsAfter params.effectiveLimit addressCoins params.afterCoinId
  let coins : List WalletCoinRecord := page.rows.map fun coinId => {
    coinId
    asset := some params.asset
    amount
    parentCoinInfo := repeated "11"
    puzzleHash := params.address
    createdHeight := some 5000000
    spentHeight := none }
  { coins
    complete := some page.complete
    cursor := coins.getLast?.map WalletCoinRecord.coinId
    source := some .db
    synced := true
    peakHeight := some 5000000 }

/-- The children of a coin, of which the node knows those of one coin. -/
def walletCoinsByParent (childCoins : List String) (params : WalletCoinsByParentParams) :
    WalletCoinsByParentResult :=
  let known := if params.parentCoinId = spentCoin then childCoins else []
  let page := idsAfter params.effectiveLimit known params.afterCoinId
  let coins : List WalletCoinRecord := page.rows.map fun coinId => {
    coinId
    asset := none
    amount := 999999999999
    parentCoinInfo := spentCoin
    puzzleHash := repeated "33"
    createdHeight := some 5000042
    spentHeight := none }
  { coins
    complete := page.complete
    cursor := coins.getLast?.map WalletCoinRecord.coinId
    source := some .fallback
    synced := false
    peakHeight := none }

/-! ## Coins -/

/-- Ids of coins in ascending order. -/
structure CoinSet where
  ids : List String
  ascending : Ascending id compareText ids
  canonical : ∀ coin ∈ ids, CanonicalHex coinIdHexLen coin

/-- The coins that a node has at one time. -/
structure Coins where
  ofAddress : CoinSet
  ofParent : CoinSet

theorem canonical_of_pairs {pairs : List String}
    (digits : ∀ pair ∈ pairs, pair.toList.length = 2 ∧ ∀ char ∈ pair.toList, IsLowerHex char) :
    ∀ coin ∈ pairs.map repeated, CanonicalHex coinIdHexLen coin := by
  intro coin member
  rcases List.mem_map.mp member with ⟨pair, isPair, rfl⟩
  rcases digits pair isPair with ⟨size, lower⟩
  rw [CanonicalHex, repeated, String.toList_ofList]
  constructor
  · rw [List.length_flatten, List.map_replicate, List.sum_replicate, size]
    rfl
  · intro char member
    rcases List.mem_flatten.mp member with ⟨chars, isCopy, inside⟩
    exact lower char (List.eq_of_mem_replicate isCopy ▸ inside)

/-- The coins of the reference node. -/
def coins : Coins where
  ofAddress := ⟨["5e", "6f", "70", "81"].map repeated, by rw [Ascending]; decide +kernel,
    canonical_of_pairs (by simp [isLowerHex_iff])⟩
  ofParent := ⟨["1a", "2b", "3c", "4d"].map repeated, by rw [Ascending]; decide +kernel,
    canonical_of_pairs (by simp [isLowerHex_iff])⟩

/-- The node that has the coins. -/
def withCoins (fixtures : ControlHandler Id) (coins : Coins) : ControlHandler Id :=
  { fixtures with
    walletCoins := fun params => pure (walletCoins coins.ofAddress.ids params)
    walletCoinsByParent := fun params => pure (walletCoinsByParent coins.ofParent.ids params) }

/-! ## Queries -/

/-- What a client may page through: the coins of an address, or the children of a coin. -/
inductive CoinQuery where
  | ofAddress (address : String) (asset : Asset)
  | ofParent (parent : { id : String // CanonicalHex coinIdHexLen id })

/-- A page size that is accepted. -/
abbrev PageSize := { limit : Option UInt32 // LimitWithin coinsMaxLimit limit }

namespace CoinQuery

def callType : CoinQuery → CallType
  | .ofAddress _ _ => .walletCoins
  | .ofParent _ => .walletCoinsByParent

/-- The paged read of the query. -/
def read (limit : PageSize) : (query : CoinQuery) → PagedRead query.callType String String
  | .ofAddress address asset => {
      ask cursor := (⟨address, asset, cursor, limit.1⟩ : WalletCoinsParams)
      rows result := WalletCoinsResult.coins result |>.map WalletCoinRecord.coinId
      complete result := WalletCoinsResult.complete result |>.getD false
      cursor result := WalletCoinsResult.cursor result }
  | .ofParent parent => {
      ask cursor := (⟨parent.1, cursor, limit.1⟩ : WalletCoinsByParentParams)
      rows result := WalletCoinsByParentResult.coins result |>.map WalletCoinRecord.coinId
      complete result := WalletCoinsByParentResult.complete result
      cursor result := WalletCoinsByParentResult.cursor result }

/-- The records of a result. -/
def records : (query : CoinQuery) → query.callType.Output → List WalletCoinRecord
  | .ofAddress _ _, result => WalletCoinsResult.coins result
  | .ofParent _, result => WalletCoinsByParentResult.coins result

/-- The record is one of those the query is about. -/
def Names (record : WalletCoinRecord) : CoinQuery → Prop
  | .ofAddress address asset => record.puzzleHash = address ∧ record.asset = some asset
  | .ofParent parent => record.parentCoinInfo = parent.1 ∧ record.asset = none

/-- The ids that the query is about. -/
def idsOf (coins : Coins) : CoinQuery → List String
  | .ofAddress _ _ => coins.ofAddress.ids
  | .ofParent parent => if parent.1 = spentCoin then coins.ofParent.ids else []

variable (env : Environment) (fixtures : ControlHandler Id) (coins : Coins) (query : CoinQuery)
  (limit : PageSize)

theorem idsOf_ascending : Ascending id compareText (query.idsOf coins) := by
  cases query with
  | ofAddress _ _ => exact coins.ofAddress.ascending
  | ofParent _ =>
      rw [idsOf]
      split
      · exact coins.ofParent.ascending
      · exact .nil

theorem idsOf_canonical : ∀ coin ∈ query.idsOf coins, CanonicalHex coinIdHexLen coin := by
  cases query with
  | ofAddress _ _ => exact coins.ofAddress.canonical
  | ofParent _ =>
      rw [idsOf]
      split
      · exact coins.ofParent.canonical
      · exact nofun

/-- The page size in force. -/
def size : UInt32 := limit.1.getD coinsDefaultLimit

theorem size_pos : 0 < (size limit).toNat :=
  UInt32.le_iff_toNat_le.mp (limit.2.getD (show 1 ≤ coinsDefaultLimit ∧ _ by decide)).1

/-- Records made of ids have these ids. -/
theorem map_coinId {record : String → WalletCoinRecord} (ids : List String)
    (same : ∀ id, (record id).coinId = id) :
    (ids.map record).map WalletCoinRecord.coinId = ids := by
  rw [List.map_map]
  exact List.map_id'' same ids

theorem cursor_eq (records : List WalletCoinRecord) :
    records.getLast?.map WalletCoinRecord.coinId =
      resumeAfter id (records.map WalletCoinRecord.coinId) := by
  rw [resumeAfter, List.getLast?_map, Option.map_id, id]

theorem mem_idsOf {position : Option String} {coin : String}
    (served : coin ∈ (idsAfter (size limit) (query.idsOf coins) position).rows) :
    coin ∈ query.idsOf coins := by
  rw [idsAfter, skipping_eq_byOrder (query.idsOf_ascending coins)] at served
  exact (mem_rowsAfter.mp (List.mem_of_mem_take served)).1

/-- The node serves the ids a query is about by their order. -/
theorem serves : (query.read limit).Serves env (CanonicalHex coinIdHexLen) id
    (withCoins fixtures coins)
    (byOrder id compareText (size limit).toNat (query.idsOf coins)) := by
  rw [← skipping_eq_byOrder (query.idsOf_ascending coins)]
  constructor
  case valid =>
    intro cursor known
    have normal : NormalCursor cursor cursor := by
      cases cursor with
      | none => exact .none
      | some last => exact .some (normalizeHex_canonical (known last rfl))
    cases query with
    | ofAddress _ _ => exact WalletCoinsParams.normalize_eq_ok_iff.mpr ⟨_, ⟨normal, limit.2⟩, rfl⟩
    | ofParent parent =>
        exact WalletCoinsByParentParams.normalize_eq_ok_iff.mpr
          ⟨_, normalizeHex_canonical parent.2, _, ⟨normal, limit.2⟩, rfl⟩
  case served =>
    intro cursor _
    cases query with
    | ofAddress address asset =>
        refine ⟨walletCoins coins.ofAddress.ids ⟨address, asset, cursor, limit.1⟩, rfl,
          NeverNull.toValue_ne_null (α := WalletCoinsResult) _, ?_, cursor_eq _⟩
        exact congrArg (Page.mk · _) (map_coinId _ fun _ => rfl)
    | ofParent parent =>
        refine ⟨walletCoinsByParent coins.ofParent.ids ⟨parent.1, cursor, limit.1⟩, rfl,
          NeverNull.toValue_ne_null (α := WalletCoinsByParentResult) _, ?_, cursor_eq _⟩
        exact congrArg (Page.mk · _) (map_coinId _ fun _ => rfl)
  case known =>
    intro cursor coin member
    exact query.idsOf_canonical coins coin (query.mem_idsOf coins limit member)

/-- The requests of a walk, each of them answered with the coins there are by then. -/
def asked (fixtures : ControlHandler Id) (requests : List (RequestId × Coins)) :
    List (RequestId × ControlHandler Id) :=
  requests.map fun (id, coins) => (id, withCoins fixtures coins)

variable (requests : List (RequestId × Coins))

/-- The ids a query is about, as they are at each request. -/
def snapshots : List (List String) := requests.map fun request => query.idsOf request.2

theorem asked_serves : List.Forall₂
    (fun node source => (query.read limit).Serves env (CanonicalHex coinIdHexLen) id node.2 source)
    (asked fixtures requests)
    ((query.snapshots requests).map (byOrder id compareText (size limit).toNat)) := by
  rw [asked, snapshots, List.map_map, List.forall₂_map_left_iff, List.forall₂_map_right_iff]
  exact List.forall₂_same.mpr fun (_, coins) _ => query.serves env fixtures coins limit

/-- What a client reads is a walk over the ids by their order. -/
theorem walk_asked :
    let results := (query.read limit).walk env none (asked fixtures requests)
    results.flatMap (query.read limit).rows =
        (Paging.walk id compareText (size limit).toNat none (query.snapshots requests)).flatten ∧
      results.any (query.read limit).complete =
        finishes id compareText (size limit).toNat none (query.snapshots requests) := by
  have walked : ((query.read limit).walk env none (asked fixtures requests)).map
      (query.read limit).page =
      PageSource.walk id none
        ((query.snapshots requests).map (byOrder id compareText (size limit).toNat)) :=
    PagedRead.walk_eq (query.asked_serves env fixtures limit requests) nofun
  constructor
  · rw [← PagedRead.rowsOf_map_page, walked, rowsOf_walk_byOrder]
  · rw [← PagedRead.ends_map_page, walked, ends_walk_byOrder]

theorem snapshots_ascending :
    ∀ ids ∈ query.snapshots requests, Ascending id compareText ids := by
  intro ids member
  rcases List.mem_map.mp member with ⟨⟨_, coins⟩, _, rfl⟩
  exact query.idsOf_ascending coins

theorem exists_served : ∀ result ∈ (query.read limit).walk env none (asked fixtures requests),
    ∃ coins position, (query.callType.serve (withCoins fixtures coins)
      ((query.read limit).ask position)).run = Except.ok result := by
  have known : ∀ last ∈ (none : Option String), CanonicalHex coinIdHexLen last := nofun
  intro result member
  rcases PagedRead.exists_served (query.asked_serves env fixtures limit requests) known result
    member with ⟨node, isAsked, position, served⟩
  rcases List.mem_map.mp isAsked with ⟨⟨_, coins⟩, _, rfl⟩
  exact ⟨coins, position, served⟩

/-- A record that is served is one the query is about. -/
theorem names_of_served {result : query.callType.Output} {position : Option String}
    (served : (query.callType.serve (withCoins fixtures coins)
      ((query.read limit).ask position)).run = Except.ok result) :
    ∀ record ∈ query.records result, query.Names record := by
  intro record member
  cases query with
  | ofAddress address asset =>
      cases served
      rcases List.mem_map.mp member with ⟨_, _, rfl⟩
      exact ⟨rfl, rfl⟩
  | ofParent parent =>
      cases served
      rcases List.mem_map.mp member with ⟨coin, inside, rfl⟩
      have known : coin ∈ (ofParent parent).idsOf coins := mem_idsOf coins _ limit inside
      refine ⟨?_, rfl⟩
      -- only one coin has children
      by_contra other
      rw [idsOf, if_neg fun same => other same.symm] at known
      cases known

end CoinQuery

open CoinQuery in
/-- A client that pages through the coins of an address, or the children of a coin, meets
them in ascending order and so none twice, meets none that the node did not have, and at a
complete page has met every one that was there at each request; if the coins stay the same,
one request more than there are coins is enough to meet them all. -/
theorem coins_walk (env : Environment) (fixtures : ControlHandler Id) (query : CoinQuery)
    (limit : PageSize) :
    (∀ requests : List (RequestId × Coins),
      let read := query.read limit
      let results := read.walk env none (asked fixtures requests)
      Ascending id compareText (results.flatMap read.rows) ∧
        (∀ coin ∈ results.flatMap read.rows, ∃ request ∈ requests,
          coin ∈ query.idsOf request.2) ∧
        (∀ result ∈ results, ∀ record ∈ query.records result, query.Names record) ∧
        (results.any read.complete = true → ∀ coin,
          (∀ request ∈ requests, coin ∈ query.idsOf request.2) →
            coin ∈ results.flatMap read.rows)) ∧
    ∀ (coins : Coins) (ids : List RequestId), (query.idsOf coins).length < ids.length →
      let read := query.read limit
      let results := read.walk env none (asked fixtures (ids.map fun id => (id, coins)))
      results.any read.complete = true ∧ results.flatMap read.rows = query.idsOf coins := by
  have positive := size_pos limit
  constructor
  · intro requests
    rcases query.walk_asked env fixtures limit requests with ⟨walked, ended⟩
    have sorted := query.snapshots_ascending requests
    refine ⟨?_, ?_, ?_, ?_⟩
    · rw [walked]
      exact (walk_ascending positive sorted none).1
    · intro coin member
      rw [walked] at member
      rcases exists_of_mem_walk member with ⟨ids, asked, inside⟩
      rcases List.mem_map.mp asked with ⟨request, isRequest, rfl⟩
      exact ⟨request, isRequest, inside⟩
    · intro result member
      rcases query.exists_served env fixtures limit requests result member with
        ⟨coins, position, served⟩
      exact query.names_of_served fixtures coins limit served
    · intro finished coin present
      rw [ended] at finished
      rw [walked]
      apply mem_walk_of_finishes positive sorted finished _ rfl
      intro ids asked
      rcases List.mem_map.mp asked with ⟨request, isRequest, rfl⟩
      exact present request isRequest
  · intro coins ids enough
    rcases query.walk_asked env fixtures limit (ids.map fun id => (id, coins)) with ⟨walked, ended⟩
    have same : query.snapshots (ids.map fun id => (id, coins)) =
        List.replicate ids.length (query.idsOf coins) := by
      rw [snapshots, List.map_map]
      change ids.map (fun _ => query.idsOf coins) = _
      exact List.map_const'
    have whole := walk_replicate positive (query.idsOf_ascending coins) enough
    rw [same] at walked ended
    exact ⟨ended.trans whole.1, walked.trans whole.2⟩

/-- The coins of the reference node after one was spent and another one created. -/
def laterCoins : Coins where
  ofAddress := ⟨["6f", "70", "81", "92"].map repeated, by rw [Ascending]; decide +kernel,
    canonical_of_pairs (by simp [isLowerHex_iff])⟩
  ofParent := coins.ofParent

open CoinQuery in
/-- A walk that comes to its end with other coins than it began with. -/
theorem coins_walk_laterCoins :
    let read := (CoinQuery.ofAddress "xch1" .xch).read ⟨some 3, by rintro _ ⟨⟩; decide⟩
    let results := read.walk plainText none
      (asked idleNode [(.number 1, coins), (.number 2, laterCoins)])
    results.any read.complete = true ∧
      ∀ coin ∈ ["6f", "70", "81"].map repeated, coin ∈ results.flatMap read.rows := by
  intro read results
  have walked := (coins_walk plainText idleNode (.ofAddress "xch1" .xch)
    ⟨some 3, by rintro _ ⟨⟩; decide⟩).1 [(.number 1, coins), (.number 2, laterCoins)]
  have ended : results.any read.complete = true := by
    rw [(walk_asked plainText idleNode _ _ _).2]
    decide +kernel
  refine ⟨ended, fun coin member => walked.2.2.2 ended coin ?_⟩
  rw [List.forall_mem_cons, List.forall_mem_singleton]
  revert coin
  decide +kernel

end MockNode

end ControlInterface
