import ControlInterface.Params.Wallet
import ControlInterface.Results.Wallet
import ControlInterface.Serde.Compact

/-!
# Pages of coins

How much of a transport frame a page of coins takes.  The largest page is chosen so
that its text stays below a third of the frame.  That is so while the asset of a coin
is a token or `null`; a CAT other than $DIG is written as an object, and a page with
many of them does not stay below.
-/

namespace ControlInterface

open Serde Text

/-- The largest frame of the transport (`MAX_FRAME_BYTES`). -/
def maxFrameBytes : Nat := 1024 * 1024

/-! ## Pages -/

/-- 64 hexadecimal digits of either case. -/
def IsHexId (text : String) : Prop :=
  text.toList.length = 64 ∧ ∀ char ∈ text.toList, (hexDigit? char).isSome

/-- The three ids of a record are ids. -/
structure WalletCoinRecord.Identified (record : WalletCoinRecord) : Prop where
  coinId : IsHexId record.coinId
  parentCoinInfo : IsHexId record.parentCoinInfo
  puzzleHash : IsHexId record.puzzleHash

/-- The records of a legal page. -/
structure CoinPage where
  records : List WalletCoinRecord
  bounded : records.length ≤ coinsMaxLimit.toNat
  identified : ∀ record ∈ records, record.Identified

namespace CoinPage

/-- A page within the limit of an accepted request is no longer than the largest page. -/
theorem length_le_of_limitWithin {limit : Option UInt32} (within : LimitWithin coinsMaxLimit limit)
    {records : List WalletCoinRecord}
    (short : records.length ≤ (limit.getD coinsDefaultLimit).toNat) :
    records.length ≤ coinsMaxLimit.toNat := by
  apply short.trans
  rw [← UInt32.le_iff_toNat_le]
  exact (within.getD (by decide)).2

/-- The page that answers an accepted request for the coins of an address. -/
def ofCoins {raw params : WalletCoinsParams} (accepted : SelfValidating.validated raw = .ok params)
    (records : List WalletCoinRecord) (short : records.length ≤ params.effectiveLimit.toNat)
    (identified : ∀ record ∈ records, record.Identified) : CoinPage :=
  ⟨records, length_le_of_limitWithin (SelfValidating.contract accepted).2 short, identified⟩

/-- The page that answers an accepted request for the children of a coin. -/
def ofCoinsByParent {raw params : WalletCoinsByParentParams}
    (accepted : SelfValidating.validated raw = .ok params) (records : List WalletCoinRecord)
    (short : records.length ≤ params.effectiveLimit.toNat)
    (identified : ∀ record ∈ records, record.Identified) : CoinPage :=
  ⟨records, length_le_of_limitWithin (SelfValidating.contract accepted).2.2 short, identified⟩

end CoinPage

/-- The coins of a result, as it carries them, take less than a third of the frame. -/
def KeepsHeadroom (float : F64 → String) (result : Json) : Prop :=
  ∃ coins, result.member "coins" = some coins ∧ coins.size float * 3 < maxFrameBytes

/-! ## What decides the size -/

namespace WalletCoinRecord

/-- The asset of a coin is written as an object. -/
def isTagged (record : WalletCoinRecord) : Bool :=
  match record.asset with
  | some (.cat id) => !Asset.isDig (.cat id)
  | _ => false

/-- The characters of a height, which may be `null`. -/
def heightLength : Option UInt32 → Nat
  | none => 4
  | some height => decimalLength height.toNat

/-- The characters by which a record is shorter than the widest one with an asset of its
kind: those its numbers are short of their largest values, and one if the asset is `null`. -/
def spare (record : WalletCoinRecord) : Nat :=
  (20 - decimalLength record.amount.toNat) + (10 - heightLength record.createdHeight) +
    (10 - heightLength record.spentHeight) + if record.asset.isNone then 1 else 0

end WalletCoinRecord

namespace CoinPage

/-- The number of coins whose asset is written as an object. -/
def tagged (page : CoinPage) : Nat := page.records.countP WalletCoinRecord.isTagged

/-- The characters by which the records of a page are shorter than the widest. -/
def spare (page : CoinPage) : Nat := (page.records.map WalletCoinRecord.spare).sum

/-- The objects, at 69 bytes more than a token each, take no more than is left: the 5524
bytes a full page of the widest records with tokens stays below a third of the frame, 344
for every record the page is short of a full one, and what the records spare. -/
def WithinRoom (page : CoinPage) : Prop :=
  69 * page.tagged ≤ 5524 + 344 * (1000 - page.records.length) + page.spare

instance (page : CoinPage) : Decidable page.WithinRoom := inferInstanceAs (Decidable (_ ≤ _))

end CoinPage

/-! ## Sizes -/

section Sizes

variable (float : F64 → String)

theorem size_hexId {text : String} (hex : IsHexId text) : (toValue text).size float = 66 := by
  have digit : ∀ char ∈ text.toList, ∃ value, hexDigit? char = some value := fun char member =>
    Option.isSome_iff_exists.mp (hex.2 char member)
  have plain := size_string float fun char member =>
    isPlain_of_hexDigit? (digit char member).choose_spec
  have bytes := utf8ByteSize_of_ascii fun char member =>
    isAscii_of_hexDigit? (digit char member).choose_spec
  rw [bytes, hex.1] at plain
  exact plain

theorem isHexId_toHex (id : AssetId) : IsHexId id.toHex := by
  refine ⟨id.toHex_length, ?_⟩
  intro char member
  exact Option.isSome_iff_exists.mpr (id.isLowerHex_toHex char member).hexDigit?

theorem size_catObject (id : AssetId) : (Asset.catObject id.toHex).size float = 74 := by
  rw [Asset.catObject, size_ofList float (by simp)]
  have digits : (Json.string id.toHex).size float = 66 := size_hexId float (isHexId_toHex id)
  simp only [List.map_cons, List.map_nil, memberSize, digits]
  decide +kernel

/-- An asset is written in five bytes, or in 74 as an object. -/
theorem size_asset (asset : Asset) :
    (toValue asset).size float = if asset = .xch ∨ asset.isDig then 5 else 74 := by
  cases asset with
  | xch => rfl
  | cat id =>
      simp only [toValue, reduceCtorEq, false_or]
      split
      · rfl
      · exact size_catObject float id

theorem size_height (height : Option UInt32) :
    (toValue height).size float = WalletCoinRecord.heightLength height := by
  cases height with
  | none => rfl
  | some height => exact size_unsigned float height

theorem heightLength_le (height : Option UInt32) : WalletCoinRecord.heightLength height ≤ 10 := by
  cases height with
  | none => decide
  | some height =>
      have bounded := height.toNat_lt
      exact (Nat.length_toDigits_le_iff (by decide) (by decide)).mpr (by omega)

/-- A `null` is a byte shorter than a token, and an object 69 bytes longer. -/
theorem size_assetField (record : WalletCoinRecord) :
    (toValue record.asset).size float + (if record.asset.isNone then 1 else 0) =
      5 + if record.isTagged then 69 else 0 := by
  rcases record with ⟨_, asset, _, _, _, _, _⟩
  cases asset with
  | none => rfl
  | some asset =>
      rw [toValue_some, size_asset]
      cases asset with
      | xch => rfl
      | cat id => cases isDig : Asset.isDig (.cat id) <;> simp [WalletCoinRecord.isTagged, isDig]

/-- The widest record with a token takes 343 bytes, and a comma follows it. -/
theorem size_record {record : WalletCoinRecord} (identified : record.Identified) :
    (toValue record).size float + 1 + record.spare =
      344 + if record.isTagged then 69 else 0 := by
  have members : SerStruct.fields.entries (SerStruct.toTuple record) =
      [("coin_id", toValue record.coinId), ("asset", toValue record.asset),
        ("amount", toValue record.amount), ("parent_coin_info", toValue record.parentCoinInfo),
        ("puzzle_hash", toValue record.puzzleHash),
        ("created_height", toValue record.createdHeight),
        ("spent_height", toValue record.spentHeight)] := rfl
  have keys : (["coin_id", "asset", "amount", "parent_coin_info", "puzzle_hash",
      "created_height", "spent_height"].map fun key => (literal key).utf8ByteSize) =
      [9, 7, 8, 18, 13, 16, 14] := by decide +kernel
  simp only [List.map_cons, List.map_nil, List.cons.injEq] at keys
  have amount : decimalLength record.amount.toNat ≤ 20 := by
    have bounded := record.amount.toNat_lt
    exact (Nat.length_toDigits_le_iff (by decide) (by decide)).mpr (by omega)
  have asset := size_assetField float record
  have created := heightLength_le record.createdHeight
  have spent := heightLength_le record.spentHeight
  rw [size_struct, members]
  simp only [List.map_cons, List.map_nil, memberSize, keys, size_hexId float identified.coinId,
    size_hexId float identified.parentCoinInfo, size_hexId float identified.puzzleHash,
    size_height, size_unsigned, WalletCoinRecord.spare, joinedSize, List.sum_cons, List.sum_nil,
    List.length_cons, List.length_nil]
  rw [show Unsigned.toNat record.amount = record.amount.toNat from rfl]
  omega

/-- The record that is taken for the widest when the largest page is chosen. -/
example :
    (toValue
      { coinId := String.ofList (List.replicate 64 'f')
        asset := none
        amount := 18446744073709551615
        parentCoinInfo := String.ofList (List.replicate 64 'f')
        puzzleHash := String.ofList (List.replicate 64 'f')
        createdHeight := some 4294967295
        spentHeight := some 4294967295 : WalletCoinRecord }).size (fun _ => "") = 342 := by
  decide +kernel

/-- What the records of a page take, each with the comma before the next. -/
theorem sum_sizes {records : List WalletCoinRecord}
    (identified : ∀ record ∈ records, record.Identified) :
    (records.map fun record => (toValue record).size float + 1).sum +
        (records.map WalletCoinRecord.spare).sum =
      344 * records.length + 69 * records.countP WalletCoinRecord.isTagged := by
  induction records with
  | nil => rfl
  | cons record rest ih =>
      rw [List.forall_mem_cons] at identified
      have first := size_record float identified.1
      have others := ih identified.2
      rw [List.map_cons, List.map_cons, List.sum_cons, List.sum_cons, List.length_cons,
        List.countP_cons]
      split at first
      next tagged =>
        rw [if_pos tagged]
        omega
      next other =>
        rw [if_neg other]
        omega

/-- The exact size of a page that is not empty. -/
theorem size_page (page : CoinPage) (nonempty : page.records ≠ []) :
    (toValue page.records).size float + page.spare =
      1 + 344 * page.records.length + 69 * page.tagged := by
  have sizes := sum_sizes float page.identified
  have some : (page.records.map fun record => (toValue record).size float) ≠ [] := by
    rwa [ne_eq, List.map_eq_nil_iff]
  have joined := joinedSize_add_one some
  rw [List.map_map] at joined
  have text : (toValue page.records).size float =
      joinedSize (page.records.map fun record => (toValue record).size float) + 2 := by
    rw [toValue, instSerializeList, size_array, List.map_map]
    rfl
  simp only [Function.comp_def] at joined
  rw [text, CoinPage.spare, CoinPage.tagged]
  omega

end Sizes

/-! ## Objects among the assets -/

namespace CoinPage

/-- A page with no more than 80 objects always keeps the headroom. -/
theorem withinRoom_of_tagged_le {page : CoinPage} (few : page.tagged ≤ 80) : page.WithinRoom := by
  rw [WithinRoom]
  omega

/-- The children of a coin are not classified, and a page of them keeps the headroom. -/
theorem ofCoinsByParent_withinRoom {raw params : WalletCoinsByParentParams}
    (accepted : SelfValidating.validated raw = .ok params) {records : List WalletCoinRecord}
    (short : records.length ≤ params.effectiveLimit.toNat)
    (identified : ∀ record ∈ records, record.Identified)
    (unclassified : ∀ record ∈ records, record.asset = none) :
    (ofCoinsByParent accepted records short identified).WithinRoom := by
  apply withinRoom_of_tagged_le
  have none : records.countP WalletCoinRecord.isTagged = 0 := by
    rw [List.countP_eq_zero]
    intro record member
    rw [WalletCoinRecord.isTagged, unclassified record member]
    exact Bool.false_ne_true
  rw [tagged, ofCoinsByParent, none]
  exact Nat.zero_le _

theorem spare_le_of_isTagged {record : WalletCoinRecord} (tagged : record.isTagged = true) :
    record.spare ≤ 37 := by
  have digits : ∀ number, 1 ≤ decimalLength number := fun _ => Nat.length_toDigits_pos
  have height : ∀ height, 1 ≤ WalletCoinRecord.heightLength height := by
    intro height
    cases height with
    | none => decide
    | some height => exact digits _
  have amount := digits record.amount.toNat
  have created := height record.createdHeight
  have spent := height record.spentHeight
  have asset : record.asset.isNone = false := by
    cases found : record.asset with
    | none =>
        rw [WalletCoinRecord.isTagged, found] at tagged
        cases tagged
    | some _ => rfl
  rw [WalletCoinRecord.spare, asset]
  simp only [Bool.false_eq_true, if_false]
  omega

/-- A page of one CAT other than $DIG does not keep the headroom from 930 coins on,
however small their numbers are. -/
theorem not_withinRoom_of_tagged {page : CoinPage}
    (tagged : ∀ record ∈ page.records, record.isTagged = true)
    (long : 930 ≤ page.records.length) : ¬ page.WithinRoom := by
  have all : page.tagged = page.records.length := List.countP_eq_length.mpr tagged
  have spare : page.spare ≤ page.records.length * 37 := by
    rw [CoinPage.spare, ← List.length_map WalletCoinRecord.spare]
    apply List.sum_le_card_nsmul
    intro size member
    rcases List.mem_map.mp member with ⟨record, inside, rfl⟩
    exact spare_le_of_isTagged (tagged record inside)
  have bounded : page.records.length ≤ 1000 := page.bounded
  rw [WithinRoom, all]
  omega

/-- No page takes two fifths of the frame. -/
theorem size_lt (float : F64 → String) (page : CoinPage) :
    (toValue page.records).size float * 5 < maxFrameBytes * 2 := by
  have bounded : page.records.length ≤ 1000 := page.bounded
  by_cases empty : page.records = []
  · rw [empty]
    exact (show 2 * 5 < maxFrameBytes * 2 by decide)
  · have size := size_page float page empty
    have tagged : page.tagged ≤ page.records.length := List.countP_le_length
    rw [maxFrameBytes]
    omega

end CoinPage

/-! ## The largest page -/

/-- Both paged reads carry the page as it is. -/
theorem WalletCoinsResult.member_coins (result : WalletCoinsResult) :
    (toValue result).member "coins" = some (toValue result.coins) := by
  rw [toValue, instSerializeOfSerStruct, Json.member_object, SerStruct.get?_members]
  rfl

theorem WalletCoinsByParentResult.member_coins (result : WalletCoinsByParentResult) :
    (toValue result).member "coins" = some (toValue result.coins) := by
  rw [toValue, instSerializeOfSerStruct, Json.member_object, SerStruct.get?_members]
  rfl

theorem keepsHeadroom_iff_size {float : F64 → String} {result coins : Json}
    (carried : result.member "coins" = some coins) :
    KeepsHeadroom float result ↔ coins.size float * 3 < maxFrameBytes := by
  simp only [KeepsHeadroom, carried, Option.some.injEq, exists_eq_left']

/-- A page takes less than a third of the frame just when its objects fit in. -/
theorem CoinPage.size_iff (float : F64 → String) (page : CoinPage) :
    (toValue page.records).size float * 3 < maxFrameBytes ↔ page.WithinRoom := by
  have bounded : page.records.length ≤ 1000 := page.bounded
  rw [maxFrameBytes, CoinPage.WithinRoom]
  by_cases empty : page.records = []
  · have none : page.tagged = 0 := by
      rw [CoinPage.tagged, empty, List.countP_nil]
    have text : (toValue ([] : List WalletCoinRecord)).size float = 2 := rfl
    rw [none, empty, text]
    exact iff_of_true (by decide) (Nat.zero_le _)
  · have size := size_page float page empty
    omega

theorem WalletCoinsResult.keepsHeadroom_iff (float : F64 → String) (page : CoinPage)
    {result : WalletCoinsResult} (carries : result.coins = page.records) :
    KeepsHeadroom float (toValue result) ↔ page.WithinRoom := by
  rw [keepsHeadroom_iff_size result.member_coins, carries, page.size_iff]

theorem WalletCoinsByParentResult.keepsHeadroom_iff (float : F64 → String) (page : CoinPage)
    {result : WalletCoinsByParentResult} (carries : result.coins = page.records) :
    KeepsHeadroom float (toValue result) ↔ page.WithinRoom := by
  rw [keepsHeadroom_iff_size result.member_coins, carries, page.size_iff]

/-- Of either paged read, the coins take less than a third of the frame just when the
objects among their assets fit in. -/
theorem coins_keepHeadroom_iff (float : F64 → String) (page : CoinPage)
    (coins : WalletCoinsResult) (children : WalletCoinsByParentResult) :
    (KeepsHeadroom float (toValue { coins with coins := page.records }) ↔ page.WithinRoom) ∧
      (KeepsHeadroom float (toValue { children with coins := page.records }) ↔
        page.WithinRoom) := by
  constructor
  · exact WalletCoinsResult.keepsHeadroom_iff float page rfl
  · exact WalletCoinsByParentResult.keepsHeadroom_iff float page rfl

/-- 32 bytes that end in a number of two bytes. -/
def numberedId (number : Nat) : AssetId :=
  ⟨List.replicate 30 0 ++ [UInt8.ofNat (number / 256), UInt8.ofNat number], rfl⟩

/-- An unspent coin of a CAT. -/
def catCoin (index : Nat) : WalletCoinRecord where
  coinId := (numberedId index).toHex
  asset := some (.cat (numberedId 0xcafe))
  amount := 1000
  parentCoinInfo := (numberedId 0xabba).toHex
  puzzleHash := (numberedId 0xbeef).toHex
  createdHeight := some 5000000
  spentHeight := none

/-- A request for as many coins of a CAT as a page holds. -/
def catRequest : WalletCoinsParams where
  address := "xch1"
  asset := .cat (numberedId 0xcafe)
  afterCoinId := none
  limit := some 1000

theorem catRequest_accepted : SelfValidating.validated catRequest = .ok catRequest := rfl

/-- The first coins of a CAT, in answer to the request. -/
def catPage (count : Nat) (short : count ≤ catRequest.effectiveLimit.toNat) : CoinPage :=
  .ofCoins catRequest_accepted ((List.range count).map catCoin)
    (by rwa [List.length_map, List.length_range]) (by
      intro record member
      rcases List.mem_map.mp member with ⟨index, _, rfl⟩
      exact ⟨isHexId_toHex _, isHexId_toHex _, isHexId_toHex _⟩)

theorem catPage_not_withinRoom {count : Nat} (short : count ≤ catRequest.effectiveLimit.toNat)
    (long : 930 ≤ count) : ¬ (catPage count short).WithinRoom := by
  apply CoinPage.not_withinRoom_of_tagged
  · intro record member
    rcases List.mem_map.mp member with ⟨index, _, rfl⟩
    change (!Asset.isDig (.cat (numberedId 0xcafe))) = true
    decide
  · rwa [catPage, CoinPage.ofCoins, List.length_map, List.length_range]

/-- The answer of a synced node that has more coins than the page holds. -/
def truncatedAnswer (page : CoinPage) : WalletCoinsResult where
  coins := page.records
  complete := some false
  cursor := page.records.getLast?.map WalletCoinRecord.coinId
  source := some .db
  synced := true
  peakHeight := some 6000000

/-- A full page of coins of a CAT takes more than a third of the frame. -/
theorem full_catPage_exceeds :
    ¬ KeepsHeadroom (fun _ => "") (toValue (truncatedAnswer (catPage 1000 (by decide)))) := by
  have carries (page : CoinPage) : (truncatedAnswer page).coins = page.records := rfl
  rw [WalletCoinsResult.keepsHeadroom_iff _ _ (carries _)]
  exact catPage_not_withinRoom _ (by decide)

end ControlInterface
