import ConstantProduct.Fee

namespace ConstantProduct

/-- The fees of every pool created under `index`. -/
structure FeeTier where
  index : UInt16
  /-- Trade fee rate, by the token sold. -/
  tradeRates : PerToken Amount
  protocolRate : Amount
  fundRate : Amount
  /-- Flat fee for the creation of a pool, charged elsewhere. -/
  creationFee : Amount
  creationDisabled : Bool
  deriving DecidableEq, Repr, Inhabited

inductive TierUpdate where
  | tradeRateZeroToOne (rate : Amount)
  | tradeRateOneToZero (rate : Amount)
  | protocolRate (rate : Amount)
  | fundRate (rate : Amount)
  | creationFee (fee : Amount)
  | creationDisabled (disabled : Bool)
  deriving DecidableEq, Repr

namespace TierUpdate

def field : TierUpdate → String
  | tradeRateZeroToOne _ => "TradeFeeRateZeroToOne"
  | tradeRateOneToZero _ => "TradeFeeRateOneToZero"
  | protocolRate _ => "ProtocolFeeRate"
  | fundRate _ => "FundFeeRate"
  | creationFee _ => "CreatePoolFee"
  | creationDisabled _ => "DisableCreatePool"

def value : TierUpdate → String
  | tradeRateZeroToOne n | tradeRateOneToZero n | protocolRate n | fundRate n | creationFee n =>
      toString n
  | creationDisabled b => toString b

def text (u : TierUpdate) : String := u.field ++ "(" ++ u.value ++ ")"

end TierUpdate

namespace FeeTier

def validate (t : FeeTier) : Result Unit := do
  Fee.checkRate t.tradeRates.zero
  Fee.checkRate t.tradeRates.one
  Fee.checkShares t.protocolRate t.fundRate

def create (index : UInt16) (tradeRates : PerToken Amount)
    (protocolRate fundRate creationFee : Amount) : Result FeeTier := do
  let tier : FeeTier := ⟨index, tradeRates, protocolRate, fundRate, creationFee, false⟩
  tier.validate
  return tier

def tradeRate (t : FeeTier) (d : Direction) : Amount := t.tradeRates.get d.sold

/-- The tier with one field replaced, whether valid or not. -/
def replace (t : FeeTier) : TierUpdate → FeeTier
  | .tradeRateZeroToOne rate => { t with tradeRates := t.tradeRates.set .zero rate }
  | .tradeRateOneToZero rate => { t with tradeRates := t.tradeRates.set .one rate }
  | .protocolRate rate => { t with protocolRate := rate }
  | .fundRate rate => { t with fundRate := rate }
  | .creationFee fee => { t with creationFee := fee }
  | .creationDisabled disabled => { t with creationDisabled := disabled }

def update (t : FeeTier) (u : TierUpdate) : Result FeeTier := do
  let next := t.replace u
  next.validate
  return next

def flip (t : FeeTier) : FeeTier := { t with tradeRates := t.tradeRates.flip }

end FeeTier

end ConstantProduct
