import ConstantProduct.Json.Codec
import ConstantProduct.Registry

namespace ConstantProduct

open Json (Codec Fields Reader)

def PoolId.codec : Codec PoolId :=
  (Codec.vector .uint8 32).partialIso (fun v => .ok ⟨v⟩) PoolId.bytes

/-- A pair, as an array of token zero's value and token one's. -/
def PerToken.codec {α : Type} (c : Codec α) : Codec (PerToken α) :=
  (Codec.vector c 2).partialIso (fun v => .ok ⟨v[0], v[1]⟩) fun p => #v[p.zero, p.one]

def Direction.codec : Codec Direction :=
  .names [.zeroForOne, .oneForZero] Direction.name

def Mode.codec : Codec Mode :=
  .names [.exactInput, .exactOutput] Mode.name

def Status.codec : Codec Status :=
  .names [.uninitialized, .active] Status.name

def FeeTier.codec : Codec FeeTier :=
  (Fields.cons "index" .uint16 none <|
    .cons "trade_fee_rate_zero_to_one" .uint64 none <|
    .cons "trade_fee_rate_one_to_zero" .uint64 none <|
    .cons "protocol_fee_rate" .uint64 none <|
    .cons "fund_fee_rate" .uint64 none <|
    .cons "create_pool_fee" .uint64 none <|
    .cons "disable_create_pool" .bool (some false) .nil).record
    (fun (index, rate0, rate1, protocol, fund, fee, disabled, ()) =>
      .ok ⟨index, ⟨rate0, rate1⟩, protocol, fund, fee, disabled⟩)
    fun t => (t.index, t.tradeRates.zero, t.tradeRates.one, t.protocolRate, t.fundRate,
      t.creationFee, t.creationDisabled, ())

def TierUpdate.codec : Codec TierUpdate :=
  .tagged
    [("TradeFeeRateZeroToOne", .tradeRateZeroToOne <$> Codec.uint64.read),
      ("TradeFeeRateOneToZero", .tradeRateOneToZero <$> Codec.uint64.read),
      ("ProtocolFeeRate", .protocolRate <$> Codec.uint64.read),
      ("FundFeeRate", .fundRate <$> Codec.uint64.read),
      ("CreatePoolFee", .creationFee <$> Codec.uint64.read),
      ("DisableCreatePool", .creationDisabled <$> Codec.bool.read)]
    fun u => (u.field,
      match u with
      | .tradeRateZeroToOne n | .tradeRateOneToZero n | .protocolRate n | .fundRate n
      | .creationFee n => Codec.uint64.write n
      | .creationDisabled b => Codec.bool.write b)

def FeeSplit.codec : Codec FeeSplit :=
  (Fields.cons "trade_fee" .uint64 none <|
    .cons "protocol_fee" .uint64 none <|
    .cons "fund_fee" .uint64 none .nil).record
    (fun (trade, protocol, fund, ()) => .ok ⟨trade, protocol, fund⟩)
    fun s => (s.tradeFee, s.protocolFee, s.fundFee, ())

/-- Two amounts, the first of which is fixed and the second a bound. -/
def Order.sides (fixed bound : String) : Codec (Amount × Amount) :=
  (Fields.cons fixed .uint64 none <| .cons bound .uint64 none .nil).record
    (fun (amount, bound, ()) => .ok (amount, bound)) fun (amount, bound) => (amount, bound, ())

def Order.inputSides : Codec (Amount × Amount) := Order.sides "amount_in" "minimum_amount_out"

def Order.outputSides : Codec (Amount × Amount) := Order.sides "amount_out" "maximum_amount_in"

def Order.codec : Codec Order :=
  .tagged
    [("ExactInput", (fun p => .exactInput p.1 p.2) <$> Order.inputSides.read),
      ("ExactOutput", (fun p => .exactOutput p.1 p.2) <$> Order.outputSides.read)]
    fun o => (o.mode.name,
      match o with
      | .exactInput amount bound => Order.inputSides.write (amount, bound)
      | .exactOutput amount bound => Order.outputSides.write (amount, bound))

def Request.codec : Codec Request :=
  (Fields.cons "direction" Direction.codec none <| .cons "kind" Order.codec none .nil).record
    (fun (direction, order, ()) => .ok ⟨direction, order⟩) fun r => (r.direction, r.order, ())

def Quote.codec : Codec Quote :=
  (Fields.cons "direction" Direction.codec none <|
    .cons "mode" Mode.codec none <|
    .cons "amount_specified" .uint64 none <|
    .cons "computed_counter_amount" .uint64 none <|
    .cons "amount_in" .uint64 none <|
    .cons "amount_out" .uint64 none <|
    .cons "trade_fee" .uint64 none <|
    .cons "protocol_fee" .uint64 none <|
    .cons "fund_fee" .uint64 none .nil).record
    (fun (direction, mode, specified, counter, amountIn, amountOut, trade, protocol, fund, ()) =>
      .ok ⟨direction, mode, specified, counter, amountIn, amountOut, ⟨trade, protocol, fund⟩⟩)
    fun q => (q.direction, q.mode, q.specified, q.counter, q.amountIn, q.amountOut,
      q.fees.tradeFee, q.fees.protocolFee, q.fees.fundFee, ())

def Receipt.codec : Codec Receipt :=
  (Fields.cons "direction" Direction.codec none <|
    .cons "mode" Mode.codec none <|
    .cons "amount_in" .uint64 none <|
    .cons "amount_out" .uint64 none <|
    .cons "trade_fee" .uint64 none <|
    .cons "protocol_fee_delta" .uint64 none <|
    .cons "fund_fee_delta" .uint64 none <|
    .cons "new_reserves" (PerToken.codec .uint64) none <|
    .cons "timestamp" .int64 none .nil).record
    (fun (direction, mode, amountIn, amountOut, trade, protocol, fund, reserves, timestamp, ()) =>
      .ok ⟨direction, mode, amountIn, amountOut, ⟨trade, protocol, fund⟩, reserves, timestamp⟩)
    fun r => (r.direction, r.mode, r.amountIn, r.amountOut, r.fees.tradeFee, r.fees.protocolFee,
      r.fees.fundFee, r.reserves, r.timestamp, ())

def Pool.codec : Codec Pool :=
  (Fields.cons "pool_id" PoolId.codec none <|
    .cons "amm_config" .uint16 none <|
    .cons "observation_key" PoolId.codec none <|
    .cons "status" Status.codec none <|
    .cons "status_bits" .uint8 none <|
    .cons "open_time" .int64 none <|
    .cons "token_0_reserve" .uint64 none <|
    .cons "token_1_reserve" .uint64 none <|
    .cons "protocol_fees_token_0" .uint64 none <|
    .cons "protocol_fees_token_1" .uint64 none <|
    .cons "fund_fees_token_0" .uint64 none <|
    .cons "fund_fees_token_1" .uint64 none .nil).record
    (fun (id, tier, oracleKey, status, bits, openTime, reserve0, reserve1, protocol0, protocol1,
        fund0, fund1, ()) =>
      .ok ⟨id, tier, oracleKey, status, bits, openTime, ⟨reserve0, reserve1⟩,
        ⟨protocol0, protocol1⟩, ⟨fund0, fund1⟩⟩)
    fun p => (p.id, p.tier, p.oracleKey, p.status, p.statusBits, p.openTime, p.reserves.zero,
      p.reserves.one, p.protocolFees.zero, p.protocolFees.one, p.fundFees.zero, p.fundFees.one, ())

def Observation.codec : Codec Observation :=
  (Fields.cons "block_timestamp" .int64 none <|
    .cons "cumulative_token_0_price_x32" .word128 none <|
    .cons "cumulative_token_1_price_x32" .word128 none .nil).record
    (fun (timestamp, cumulative0, cumulative1, ()) => .ok ⟨timestamp, ⟨cumulative0, cumulative1⟩⟩)
    fun o => (o.timestamp, o.cumulative.zero, o.cumulative.one, ())

def RingRecord.codec : Codec RingRecord :=
  (Fields.cons "pool_id" PoolId.codec none <|
    .cons "initialized" .bool none <|
    .cons "observation_index" (.below UInt64.size) none <|
    .cons "len" (.below UInt64.size) none <|
    .cons "observations" (.list Observation.codec) none .nil).record
    (fun (owner, initialized, cursor, length, slots, ()) =>
      if h : slots.toArray.size < UInt64.size then
        .ok ⟨owner, initialized, cursor, length, slots.toArray, h⟩
      else .error .malformed)
    fun r => (r.owner, r.initialized, r.cursor, r.length, r.slots.toList, ())

def Ring.codec : Codec Ring :=
  RingRecord.codec.partialIso
    (fun record =>
      match Ring.ofRecord record with
      | .ok ring => .ok ring
      | .error e => .error (.refused e.message))
    Ring.toRecord

def Ledger.codec : Codec Ledger :=
  (Fields.cons "state" Pool.codec none <| .cons "oracle" Ring.codec none .nil).record
    (fun (pool, oracle, ()) => .ok ⟨pool, oracle⟩) fun l => (l.pool, l.oracle, ())

def Registry.Stats.codec : Codec Registry.Stats :=
  (Fields.cons "total_pools" (.below UInt64.size) none <|
    .cons "total_configs" (.below UInt64.size) none <|
    .cons "swaps_applied" (.below UInt64.size) none <|
    .cons "swaps_rejected" (.below UInt64.size) none <|
    .cons "last_swap_timestamp" .int64 none .nil).record
    (fun (pools, tiers, applied, rejected, lastSwap, ()) =>
      .ok ⟨pools, tiers, applied, rejected, lastSwap⟩)
    fun s => (s.pools, s.tiers, s.swapsApplied, s.swapsRejected, s.lastSwap, ())

namespace Json.Codec

variable {α : Type}

def encode (c : Codec α) (a : α) : String := String.ofList (c.write a)

def decode (c : Codec α) (text : String) : Except Failure α := c.read.whole text

end Json.Codec

end ConstantProduct
