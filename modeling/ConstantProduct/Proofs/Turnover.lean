import Mathlib
import ConstantProduct.Proofs.Runs

namespace ConstantProduct

@[simp] theorem Direction.bought_ne_sold (d : Direction) : d.bought ≠ d.sold :=
  d.sold_ne_bought.symm

inductive Party where
  | protocol
  | fund
  deriving DecidableEq, Repr

namespace Party

def share : Party → FeeSplit → Amount
  | protocol, s => s.protocolFee
  | fund, s => s.fundFee

def unclaimed : Party → Pool → PerToken Amount
  | protocol, p => p.protocolFees
  | fund, p => p.fundFees

def collection : Party → PerToken Amount → Ledger.Op
  | protocol => .collectProtocol
  | fund => .collectFund

/-- What an operation paid out to the party, by its answer. -/
def taken : Party → Token → Ledger.Op × Ledger.Answer → ℕ
  | protocol, t, (.collectProtocol _, .collected amounts) => (amounts.get t).toNat
  | fund, t, (.collectFund _, .collected amounts) => (amounts.get t).toNat
  | _, _, _ => 0

def claimed (party : Party) (t : Token) (js : List (Ledger.Op × Ledger.Answer)) : ℕ :=
  (js.map (party.taken t)).sum

@[simp] theorem claimed_nil (party : Party) (t : Token) : party.claimed t [] = 0 := rfl

@[simp] theorem claimed_concat (party : Party) (t : Token)
    (js : List (Ledger.Op × Ledger.Answer)) (j : Ledger.Op × Ledger.Answer) :
    party.claimed t (js ++ [j]) = party.claimed t js + party.taken t j := by simp [claimed]

end Party

namespace Receipt

def paid (r : Receipt) (t : Token) : ℕ :=
  if t = r.direction.sold then r.amountIn.toNat else 0

def received (r : Receipt) (t : Token) : ℕ :=
  if t = r.direction.bought then r.amountOut.toNat else 0

def kept (r : Receipt) (party : Party) (t : Token) : ℕ :=
  if t = r.direction.sold then (party.share r.fees).toNat else 0

/-- What the traders paid of a token less what they received of it. -/
def netPaid (rs : List Receipt) (t : Token) : ℤ :=
  (rs.map fun r => (r.paid t : ℤ)).sum - (rs.map fun r => (r.received t : ℤ)).sum

@[simp] theorem netPaid_nil (t : Token) : netPaid [] t = 0 := rfl

theorem netPaid_append_singleton (rs : List Receipt) (r : Receipt) (t : Token) :
    netPaid (rs ++ [r]) t = netPaid rs t + (r.paid t - r.received t) := by
  simp only [netPaid, List.map_append, List.sum_append, List.map_cons, List.map_nil,
    List.sum_singleton]
  ring

end Receipt

namespace Party

def accrued (party : Party) (t : Token) (rs : List Receipt) : ℕ :=
  (rs.map fun r => r.kept party t).sum

@[simp] theorem accrued_nil (party : Party) (t : Token) : party.accrued t [] = 0 := rfl

@[simp] theorem accrued_concat (party : Party) (t : Token) (rs : List Receipt) (r : Receipt) :
    party.accrued t (rs ++ [r]) = party.accrued t rs + r.kept party t := by simp [accrued]

end Party

namespace Pool

variable {p : Pool} {q : Quote}

theorem Admits.share_lt (h : p.Admits q) (party : Party) :
    ((party.unclaimed p).get q.direction.sold).toNat + (party.share q.fees).toNat < 2 ^ 64 := by
  cases party with
  | protocol => exact h.protocolFee_lt
  | fund => exact h.fundFee_lt

/-- A quote adds its share to the fees of each party in the token sold, and nothing in the other. -/
theorem unclaimed_booked (party : Party)
    (h : ((party.unclaimed p).get q.direction.sold).toNat + (party.share q.fees).toNat < 2 ^ 64) :
    ((party.unclaimed (p.booked q)).get q.direction.sold).toNat =
        ((party.unclaimed p).get q.direction.sold).toNat + (party.share q.fees).toNat ∧
      (party.unclaimed (p.booked q)).get q.direction.bought =
        (party.unclaimed p).get q.direction.bought := by
  cases party with
  | protocol => exact ⟨booked_protocolFee h, booked_protocolFees_bought p q⟩
  | fund => exact ⟨booked_fundFee h, booked_fundFees_bought p q⟩

end Pool

namespace Ledger

variable {l : Ledger} {r : Request} {tier : FeeTier} {timestamp : Int64} {s : Staged}

/-- A swap brings to the reserve what is paid, less the parties' shares, and takes out of it what is
received. -/
theorem reserves_of_stage (h : l.stage r tier timestamp = .ok s) (t : Token) :
    (s.pool.reserves.get t).toNat + (s.receipt timestamp).received t +
        (s.receipt timestamp).kept .protocol t + (s.receipt timestamp).kept .fund t =
      (l.pool.reserves.get t).toNat + (s.receipt timestamp).paid t := by
  obtain ⟨-, -, -, hadmits, -, -, hpool, -⟩ := stage_eq_ok_iff.1 h
  rw [hpool]
  have hshares := hadmits.shares_le
  have hlt := hadmits.out_lt
  revert t
  rw [s.quote.direction.forall_token, hadmits.reserveIn, hadmits.reserveOut]
  simp only [Staged.receipt, Receipt.paid, Receipt.received, Receipt.kept, Party.share,
    Direction.sold_ne_bought, Direction.bought_ne_sold, ↓reduceIte, Quote.credit]
  constructor <;> omega

theorem unclaimed_of_stage (h : l.stage r tier timestamp = .ok s) (party : Party) (t : Token) :
    ((party.unclaimed s.pool).get t).toNat =
      ((party.unclaimed l.pool).get t).toNat + (s.receipt timestamp).kept party t := by
  obtain ⟨-, -, -, hadmits, -, -, hpool, -⟩ := stage_eq_ok_iff.1 h
  obtain ⟨hsold, hbought⟩ := Pool.unclaimed_booked party (hadmits.share_lt party)
  rw [hpool]
  revert t
  rw [s.quote.direction.forall_token]
  simp only [Staged.receipt, Receipt.kept, Direction.bought_ne_sold, ↓reduceIte]
  exact ⟨hsold, congrArg _ hbought⟩

end Ledger

end ConstantProduct
