import Mathlib
import ConstantProduct.Proofs.Conservation

namespace ConstantProduct

section Errors

def Calculation.flip : Calculation → Calculation
  | vaultBalance t => vaultBalance t.other
  | c => c

def Accumulator.flip : Accumulator → Accumulator
  | protocol t => protocol t.other
  | fund t => fund t.other

def Error.flip : Error → Error
  | overflow c => overflow c.flip
  | divisionByZero c => divisionByZero c.flip
  | accumulatorOverflow a current delta => accumulatorOverflow a.flip current delta
  | emptyReserve reserves => emptyReserve reserves.flip
  | e => e

variable {α β : Type}

/-- A result for the token labels exchanged, where `f` exchanges them in an answer. -/
def relabelled (f : α → α) : Result α → Result α
  | .ok a => .ok (f a)
  | .error e => .error e.flip

/-- Of two calculations in a row, both are relabelled if each is. -/
theorem relabelled_bind {f : α → α} {g : β → β} {x x' : Result α} {k k' : α → Result β}
    (hx : x' = relabelled f x) (hk : ∀ a, x = .ok a → k' (f a) = relabelled g (k a)) :
    x' >>= k' = relabelled g (x >>= k) := by
  rw [hx]
  rcases x with e | a
  · rfl
  · exact hk a rfl

/-- A check that is made on both sides refuses with the relabelled error. -/
theorem relabelled_ite {f : α → α} {c : Prop} [Decidable c] {e e' : Error} {x x' : Result α}
    (he : e' = e.flip) (hx : ¬c → x' = relabelled f x) :
    (if c then .error e' else x') = relabelled f (if c then .error e else x) := by
  by_cases h : c
  · rw [if_pos h, if_pos h, he, relabelled]
  · rw [if_neg h, if_neg h, hx h]

/-- A check whose errors name no token is the same with the labels exchanged. -/
theorem relabelled_id {x : Result α} (h : ∀ e, x = .error e → e.flip = e) :
    x = relabelled id x := by
  rcases x with e | a
  · rw [relabelled, h e rfl]
  · rfl

end Errors

section Sides

variable {α : Type}

@[simp] theorem PerToken.get_flip_sold (p : PerToken α) (d : Direction) :
    p.flip.get d.opposite.sold = p.get d.sold := by cases d <;> rfl

@[simp] theorem PerToken.get_flip_bought (p : PerToken α) (d : Direction) :
    p.flip.get d.opposite.bought = p.get d.bought := by cases d <;> rfl

@[simp] theorem FeeTier.tradeRate_flip (tier : FeeTier) (d : Direction) :
    tier.flip.tradeRate d.opposite = tier.tradeRate d := by cases d <;> rfl

end Sides

section Pricing

theorem Curve.flip_of_exactInput_error {ri ro x r : Amount} {e : Error}
    (h : exactInput ri ro x r = .error e) : e.flip = e := by
  rw [exactInput_eq] at h
  dsimp only at h
  split_ifs at h <;> cases h <;> rfl

theorem Curve.flip_of_exactOutput_error {ri ro y r : Amount} {e : Error}
    (h : exactOutput ri ro y r = .error e) : e.flip = e := by
  rw [exactOutput_eq] at h
  dsimp only at h
  split_ifs at h <;> cases h <;> rfl

theorem Fee.flip_of_split_error {fee p f : Amount} {e : Error} (h : split fee p f = .error e) :
    e.flip = e := by
  rw [split_eq] at h
  split_ifs at h <;> cases h <;> rfl

@[simp] theorem Quote.direction_flip (q : Quote) : q.flip.direction = q.direction.opposite := rfl

/-- A quote for the labels exchanged, at reserves and rates with the labels exchanged. -/
theorem Quote.price_flip (d : Direction) (reserves : PerToken Amount) (order : Order)
    (tier : FeeTier) :
    price d.opposite reserves.flip order tier.flip =
      relabelled Quote.flip (price d reserves order tier) := by
  cases order with
  | exactInput x bound =>
    simp only [price, PerToken.get_flip_sold, PerToken.get_flip_bought, FeeTier.tradeRate_flip]
    refine relabelled_bind (relabelled_id fun e => Curve.flip_of_exactInput_error) ?_
    intro priced _
    exact relabelled_bind (relabelled_id fun e => Fee.flip_of_split_error) fun fees _ => rfl
  | exactOutput y bound =>
    simp only [price, PerToken.get_flip_sold, PerToken.get_flip_bought, FeeTier.tradeRate_flip]
    refine relabelled_bind (relabelled_id fun e => Curve.flip_of_exactOutput_error) ?_
    intro priced _
    exact relabelled_bind (relabelled_id fun e => Fee.flip_of_split_error) fun fees _ => rfl

theorem Order.flip_of_checkBound_error {o : Order} {q : Quote} {e : Error}
    (h : o.checkBound q = .error e) : e.flip = e := by
  obtain ⟨quoted, bound, rfl⟩ := checkBound_error h
  rfl

end Pricing

namespace Pool

@[simp] theorem vault_flip (p : Pool) (t : Token) : p.flip.vault t = p.vault t.other := by
  cases t <;> rfl

@[simp] theorem product_flip (p : Pool) : p.flip.product = p.product := Nat.mul_comm _ _

@[simp] theorem invariant_flip (p : Pool) : p.flip.invariant = p.invariant := BitVec.mul_comm _ _

theorem booked_flip (p : Pool) (q : Quote) : p.flip.booked q.flip = (p.booked q).flip := by
  obtain ⟨d, mode, specified, counter, amountIn, amountOut, fees⟩ := q
  cases d <;> rfl

section Fields

variable (p : Pool) (q : Quote)

@[simp] theorem reserves_flip : p.flip.reserves = p.reserves.flip := rfl

@[simp] theorem protocolFees_flip : p.flip.protocolFees = p.protocolFees.flip := rfl

@[simp] theorem fundFees_flip : p.flip.fundFees = p.fundFees.flip := rfl

end Fields

/-- The two vault checks, of which at most the one of the token sold can fail. -/
theorem vault_checks_flip {next : Pool} {d : Direction} {x x' : Result Pool}
    (hbought : next.vault d.bought < 2 ^ 64) (hx : x' = relabelled Pool.flip x) :
    (if 2 ^ 64 ≤ next.flip.vault .zero then .error (.overflow (.vaultBalance .zero))
      else if 2 ^ 64 ≤ next.flip.vault .one then .error (.overflow (.vaultBalance .one)) else x') =
    relabelled Pool.flip
      (if 2 ^ 64 ≤ next.vault .zero then .error (.overflow (.vaultBalance .zero))
        else if 2 ^ 64 ≤ next.vault .one then .error (.overflow (.vaultBalance .one)) else x) := by
  have hfits : ¬2 ^ 64 ≤ next.vault d.bought := not_le.2 hbought
  rw [vault_flip, vault_flip, Token.other, Token.other]
  cases d with
  | zeroForOne =>
    have hone : ¬2 ^ 64 ≤ next.vault .one := hfits
    rw [if_neg hone, if_neg hone]
    exact relabelled_ite rfl fun _ => hx
  | oneForZero =>
    have hzero : ¬2 ^ 64 ≤ next.vault .zero := hfits
    rw [if_neg hzero, if_neg hzero]
    exact relabelled_ite rfl fun _ => hx

/-- The books with the labels exchanged, where the vault that is paid out of fits. -/
theorem book_flip {p : Pool} {q : Quote} (hfits : p.vault q.direction.bought < 2 ^ 64) :
    p.flip.book q.flip = relabelled Pool.flip (p.book q) := by
  rw [book_eq, book_eq, booked_flip]
  simp only [reserves_flip, protocolFees_flip, fundFees_flip, Quote.direction_flip,
    PerToken.get_flip_sold, PerToken.get_flip_bought]
  rw [Direction.sold_opposite]
  refine relabelled_ite rfl fun _ => ?_
  refine relabelled_ite rfl fun _ => ?_
  refine relabelled_ite rfl fun hout => ?_
  refine relabelled_ite rfl fun _ => ?_
  refine relabelled_ite rfl fun _ => ?_
  have hbought : (p.booked q).vault q.direction.bought < 2 ^ 64 := by
    have := booked_vault_bought (p := p) (q := q) (not_le.1 hout).le
    omega
  refine vault_checks_flip hbought ?_
  rw [product_flip, product_flip, invariant_flip, invariant_flip]
  exact relabelled_ite rfl fun _ => rfl

theorem spotPrices_flip (p : Pool) :
    p.flip.spotPrices = relabelled PerToken.flip p.spotPrices := by
  rw [spotPrices_eq, spotPrices_eq]
  have hempty : (p.flip.reserves.zero = 0 ∨ p.flip.reserves.one = 0) ↔
      (p.reserves.zero = 0 ∨ p.reserves.one = 0) := Or.comm
  simp only [hempty]
  exact relabelled_ite rfl fun _ => rfl

theorem flip_of_ensureSwappable_error {p : Pool} {timestamp : Int64} {e : Error}
    (h : p.ensureSwappable timestamp = .error e) : e.flip = e := by
  rw [ensureSwappable_eq] at h
  split_ifs at h <;> cases h <;> rfl

end Pool

namespace Ring

@[simp] theorem latest?_flip (r : Ring) : r.flip.latest? = r.latest?.map Observation.flip := by
  unfold latest? flip
  dsimp only
  split_ifs with h
  · rw [Array.getElem_map]
    rfl
  · rfl

theorem stage_flip (r : Ring) (timestamp : Int64) (prices : PerToken Wide) :
    r.flip.stage timestamp prices.flip =
      relabelled (Option.map Observation.flip) (r.stage timestamp prices) := by
  unfold stage
  rw [latest?_flip]
  rcases r.latest? with _ | last
  · rfl
  · refine relabelled_ite rfl fun _ => ?_
    by_cases h : timestamp = last.timestamp
    · rw [if_pos h]
      exact if_pos h
    · rw [if_neg h]
      exact if_neg h

theorem push_flip (r : Ring) (o : Observation) : (r.push o).flip = r.flip.push o.flip := by
  unfold push flip nextSlot
  simp only [Array.size_map, Ring.mk.injEq, true_and, and_true]
  exact Array.map_set

theorem commit_flip (r : Ring) (staged : Option Observation) :
    (r.commit staged).flip = r.flip.commit (staged.map Observation.flip) := by
  cases staged with
  | none => rfl
  | some o => exact r.push_flip o

end Ring

namespace Ledger

def Staged.flip (s : Staged) : Staged :=
  ⟨s.quote.flip, s.pool.flip, s.observation.map Observation.flip⟩

variable {l : Ledger}

theorem quote_flip (l : Ledger) (r : Request) (tier : FeeTier) :
    l.flip.quote r.flip tier.flip = relabelled Quote.flip (l.quote r tier) :=
  Quote.price_flip r.direction l.pool.reserves r.order tier

theorem stage_flip (hfits : ∀ t, l.pool.vault t < 2 ^ 64) (r : Request) (tier : FeeTier)
    (timestamp : Int64) :
    l.flip.stage r.flip tier.flip timestamp =
      relabelled Staged.flip (l.stage r tier timestamp) := by
  refine relabelled_bind (x := l.pool.ensureSwappable timestamp)
    (relabelled_id fun e => Pool.flip_of_ensureSwappable_error) fun _ _ => ?_
  refine relabelled_bind (l.quote_flip r tier) fun q _ => ?_
  refine relabelled_bind (x := r.order.checkBound q)
    (relabelled_id fun e => Order.flip_of_checkBound_error) fun _ _ => ?_
  refine relabelled_bind (Pool.book_flip (hfits _)) fun next _ => ?_
  refine relabelled_bind next.spotPrices_flip fun prices _ => ?_
  exact relabelled_bind (l.oracle.stage_flip timestamp prices) fun _ _ => rfl

theorem swap_flip (hfits : ∀ t, l.pool.vault t < 2 ^ 64) (r : Request) (tier : FeeTier)
    (timestamp : Int64) :
    (l.flip.swap r.flip tier.flip timestamp).answer =
        relabelled Receipt.flip (l.swap r tier timestamp).answer ∧
      (l.flip.swap r.flip tier.flip timestamp).next = (l.swap r tier timestamp).next.flip := by
  have hstage := stage_flip hfits r tier timestamp
  rcases h : l.stage r tier timestamp with e | s
  · rw [h] at hstage
    simp only [swap, h, hstage, relabelled]
    exact ⟨trivial, trivial⟩
  · rw [h] at hstage
    simp only [swap, h, hstage, relabelled]
    refine ⟨rfl, ?_⟩
    change (⟨s.pool.flip, l.oracle.flip.commit (s.observation.map Observation.flip)⟩ : Ledger) =
      ⟨s.pool.flip, (l.oracle.commit s.observation).flip⟩
    rw [Ring.commit_flip]

def Op.flip : Op → Op
  | swap r tier timestamp => swap r.flip tier.flip timestamp
  | quote r tier => quote r.flip tier.flip
  | collectProtocol requested => collectProtocol requested.flip
  | collectFund requested => collectFund requested.flip
  | setStatus bits => setStatus bits

def Answer.flip : Answer → Answer
  | swap result => swap (relabelled Receipt.flip result)
  | quote result => quote (relabelled Quote.flip result)
  | collected amounts => collected amounts.flip
  | done => done

theorem step_flip (hfits : ∀ t, l.pool.vault t < 2 ^ 64) (op : Op) :
    (l.flip.step op.flip).answer = (l.step op).answer.flip ∧
      (l.flip.step op.flip).next = (l.step op).next.flip := by
  cases op with
  | swap r tier timestamp =>
    obtain ⟨hanswer, hnext⟩ := swap_flip hfits r tier timestamp
    exact ⟨congrArg Answer.swap hanswer, hnext⟩
  | quote r tier => exact ⟨congrArg Answer.quote (l.quote_flip r tier), rfl⟩
  | collectProtocol requested => exact ⟨rfl, rfl⟩
  | collectFund requested => exact ⟨rfl, rfl⟩
  | setStatus bits => exact ⟨rfl, rfl⟩

/-- With the token labels exchanged, a run gives the same answers and the same ledger at its end, but
for the labels. -/
theorem runs_alike_relabelled {l : Ledger} {balances : PerToken Amount}
    (hbalances : l.pool.vaultBalances = .ok balances) (ops : List Op) :
    l.flip.answers (ops.map Op.flip) = (l.answers ops).map Answer.flip ∧
      l.flip.run (ops.map Op.flip) = (l.run ops).flip := by
  have hfits := Pool.vault_lt_of_balances hbalances
  clear hbalances
  induction ops generalizing l with
  | nil => exact ⟨rfl, rfl⟩
  | cons op ops ih =>
    obtain ⟨hanswer, hnext⟩ := step_flip hfits op
    obtain ⟨hanswers, hrun⟩ := ih (vault_step_lt l op hfits)
    rw [List.map_cons, answers_cons, answers_cons, run_cons, run_cons, hnext, hanswer, hanswers,
      hrun, List.map_cons]
    exact ⟨rfl, rfl⟩

/-- The market with its tokens exchanged takes the swap in the other direction, and pays out the fee
of the other token. -/
theorem run_flip_market :
    let ops := [Op.swap ⟨.zeroForOne, .exactInput 100000000 1981651376⟩ tenth 200,
      .collectProtocol ⟨500000, 1⟩]
    (∃ receipt, receipt ∈ market.flip.receipts (ops.map Op.flip) ∧
      receipt.direction = .oneForZero) ∧
    market.flip.run (ops.map Op.flip) = (market.run ops).flip := by
  intro ops
  have hbalances : market.pool.vaultBalances = .ok ⟨1000000000, 24000000000⟩ := by decide
  obtain ⟨hanswers, hrun⟩ := runs_alike_relabelled hbalances ops
  refine ⟨?_, hrun⟩
  rw [receipts, hanswers]
  decide

end Ledger

end ConstantProduct
