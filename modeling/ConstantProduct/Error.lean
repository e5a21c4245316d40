import ConstantProduct.Token

namespace ConstantProduct

/-- Token amounts, reserves, fees and rates. -/
abbrev Amount := UInt64

/-- Prices, products of two amounts and cumulative prices. -/
abbrev Wide := BitVec 128

/-- A word operation whose result its type cannot hold, where no error was provided for it. -/
inductive Fault where
  | addition
  | subtraction
  | narrowing
  deriving DecidableEq, Repr

namespace Fault

def message : Fault → String
  | addition => "attempt to add with overflow"
  | subtraction => "attempt to subtract with overflow"
  | narrowing => "attempt to narrow with overflow"

end Fault

inductive Calculation where
  | mulDiv
  | mulDivRounding
  | ceilDiv
  | price
  | tradeFee
  | feeShare
  | exactInputOut
  | exactOutputIn
  | inputCredit
  | vaultBalance (token : Token)
  | custom (name : String)
  deriving DecidableEq, Repr

namespace Calculation

def name : Calculation → String
  | mulDiv => "mul_div"
  | mulDivRounding => "mul_div rounding"
  | ceilDiv => "ceil_div"
  | price => "price_x32"
  | tradeFee => "trade fee"
  | feeShare => "fee share"
  | exactInputOut => "exact input amount out"
  | exactOutputIn => "exact output amount in"
  | inputCredit => "input reserve credit"
  | vaultBalance .zero => "token0 vault balance"
  | vaultBalance .one => "token1 vault balance"
  | custom name => name

end Calculation

inductive RateFault where
  | aboveWhole
  | sumAboveWhole
  | wholeInExactOutput
  deriving DecidableEq, Repr

namespace RateFault

def reason : RateFault → String
  | aboveWhole => "rate exceeds 100%"
  | sumAboveWhole => "protocol and fund rates sum past 100%"
  | wholeInExactOutput => "exact output requires a rate below 100%"

end RateFault

inductive Accumulator where
  | protocol (token : Token)
  | fund (token : Token)
  deriving DecidableEq, Repr

namespace Accumulator

def name : Accumulator → String
  | protocol .zero => "protocol_fees_token_0"
  | protocol .one => "protocol_fees_token_1"
  | fund .zero => "fund_fees_token_0"
  | fund .one => "fund_fees_token_1"

end Accumulator

inductive Error where
  | overflow (calculation : Calculation)
  | divisionByZero (calculation : Calculation)
  | invalidFeeRate (rate : Amount) (cause : RateFault)
  | zeroInput
  | zeroOutput
  | insufficientLiquidity (requested reserve : Amount)
  | slippageExceeded (quoted bound : Amount)
  | accumulatorOverflow (accumulator : Accumulator) (current delta : Amount)
  | staleTimestamp (timestamp latest : Int64)
  | invariantDecreased (before after : Wide)
  | poolNotActive (statusBits : UInt8)
  | poolNotOpen (openTime timestamp : Int64)
  | emptyReserve (reserves : PerToken Amount)
  | creationDisabled (tier : UInt16)
  | fault (f : Fault)
  deriving DecidableEq, Repr

/-- Status bits in binary, marked `0b`, with two digits at least. -/
def binaryText (bits : UInt8) : String :=
  let digits := Nat.toDigits 2 bits.toNat
  "0b" ++ String.ofList (List.replicate (2 - digits.length) '0' ++ digits)

namespace Error

def message : Error → String
  | overflow c => "Arithmetic overflow in " ++ c.name
  | divisionByZero c => "Division by zero in " ++ c.name
  | invalidFeeRate rate cause =>
      "Invalid fee rate " ++ toString rate ++ ": " ++ cause.reason ++ " (denominator 1_000_000)"
  | zeroInput => "Input amount must be greater than zero"
  | zeroOutput => "Output amount must be greater than zero"
  | insufficientLiquidity requested reserve =>
      "Insufficient liquidity: requested " ++ toString requested ++
        " against reserve " ++ toString reserve
  | slippageExceeded quoted bound =>
      "Slippage exceeded: quoted " ++ toString quoted ++ ", bound " ++ toString bound
  | accumulatorOverflow accumulator current delta =>
      "Fee accumulator overflow: " ++ accumulator.name ++ " at " ++ toString current ++
        " cannot absorb " ++ toString delta
  | staleTimestamp timestamp latest =>
      "Non-monotonic timestamp " ++ toString timestamp ++
        ": latest observation is at " ++ toString latest
  | invariantDecreased before after =>
      "Curve invariant decreased from " ++ toString before.toNat ++
        " to " ++ toString after.toNat
  | poolNotActive bits => "Pool is not active (status bits " ++ binaryText bits ++ ")"
  | poolNotOpen openTime timestamp =>
      "Pool opens after " ++ toString openTime ++ ", swap timestamp " ++ toString timestamp
  | emptyReserve reserves =>
      "Invalid initial reserves: token0=" ++ toString reserves.zero ++
        ", token1=" ++ toString reserves.one
  | creationDisabled tier => "Pool creation disabled for config " ++ toString tier
  | fault f => f.message

end Error

abbrev Result := Except Error

end ConstantProduct
