import Mathlib
import ConstantProduct.Pool
import ConstantProduct.Proofs.Words

namespace ConstantProduct

namespace PerToken

variable {α : Type}

@[simp] theorem get_set_sold (p : PerToken α) (d : Direction) (a b : α) :
    ((p.set d.sold a).set d.bought b).get d.sold = a := by cases d <;> rfl

@[simp] theorem get_set_bought (p : PerToken α) (d : Direction) (a b : α) :
    ((p.set d.sold a).set d.bought b).get d.bought = b := by cases d <;> rfl

@[simp] theorem get_bought_set_sold (p : PerToken α) (d : Direction) (a : α) :
    (p.set d.sold a).get d.bought = p.get d.bought := by cases d <;> rfl

end PerToken

theorem Direction.forall_token (d : Direction) {P : Token → Prop} :
    (∀ t, P t) ↔ P d.sold ∧ P d.bought := by
  constructor
  · intro h
    exact ⟨h _, h _⟩
  · rintro ⟨hs, hb⟩ t
    cases d <;> cases t <;> assumption

/-- What of a payment joins the reserve. -/
def Quote.credit (q : Quote) : ℕ :=
  q.amountIn.toNat - q.fees.protocolFee.toNat - q.fees.fundFee.toNat

theorem Quote.reserveCredit_eq (q : Quote) :
    q.reserveCredit =
      if q.fees.protocolFee.toNat + q.fees.fundFee.toNat ≤ q.amountIn.toNat
      then .ok (UInt64.ofNat q.credit) else .error (.fault .subtraction) := by
  by_cases hp : q.fees.protocolFee.toNat ≤ q.amountIn.toNat
  · obtain ⟨rest, hrest, hsub⟩ := Amount.exists_sub_eq_ok hp
    rw [reserveCredit, hsub, ok_bind]
    by_cases hf : q.fees.fundFee.toNat ≤ rest.toNat
    · obtain ⟨credit, hcredit, hsub'⟩ := Amount.exists_sub_eq_ok hf
      rw [hsub', if_pos (by omega), Quote.credit, ← hrest, ← hcredit, UInt64.ofNat_toNat]
    · rw [if_neg (by omega), Amount.sub, Amount.sub?_eq_none_iff.2 (not_le.1 hf)]
  · rw [reserveCredit, if_neg (by omega), Amount.sub, Amount.sub?_eq_none_iff.2 (not_le.1 hp),
      error_bind]

namespace Pool

def vault (p : Pool) (t : Token) : ℕ :=
  (p.reserves.get t).toNat + (p.protocolFees.get t).toNat + (p.fundFees.get t).toNat

def product (p : Pool) : ℕ := p.reserves.zero.toNat * p.reserves.one.toNat

theorem product_eq (p : Pool) (d : Direction) :
    p.product = (p.reserves.get d.sold).toNat * (p.reserves.get d.bought).toNat := by
  cases d with
  | zeroForOne => rfl
  | oneForZero => exact Nat.mul_comm _ _

theorem vaultBalance_eq (p : Pool) (t : Token) :
    p.vaultBalance t =
      if p.vault t < 2 ^ 64 then .ok (UInt64.ofNat (p.vault t))
      else .error (.overflow (.vaultBalance t)) := by
  unfold vaultBalance vault
  rcases hs : (p.reserves.get t).add? (p.protocolFees.get t) with _ | s
  · have := Amount.add?_eq_none_iff.1 hs
    rw [if_neg (by omega)]
  · have hsum := Amount.add?_eq_some_iff.1 hs
    rw [← hsum]
    rcases hb : s.add? (p.fundFees.get t) with _ | b
    · have := Amount.add?_eq_none_iff.1 hb
      simp only [hb]
      rw [if_neg (by omega)]
    · have hbal := Amount.add?_eq_some_iff.1 hb
      have := b.toNat_lt
      simp only [hb]
      rw [← hbal, if_pos (by omega), UInt64.ofNat_toNat]

theorem vaultBalances_eq (p : Pool) :
    p.vaultBalances =
      if p.vault .zero < 2 ^ 64 then
        if p.vault .one < 2 ^ 64 then
          .ok ⟨UInt64.ofNat (p.vault .zero), UInt64.ofNat (p.vault .one)⟩
        else .error (.overflow (.vaultBalance .one))
      else .error (.overflow (.vaultBalance .zero)) := by
  rw [vaultBalances, vaultBalance_eq, vaultBalance_eq]
  split_ifs <;> simp only [ok_bind, error_bind, pure_eq_ok]

theorem vaultBalances_eq_ok_iff {p : Pool} {b : PerToken Amount} :
    p.vaultBalances = .ok b ↔ ∀ t, (b.get t).toNat = p.vault t := by
  rw [vaultBalances_eq]
  constructor
  · intro h
    split_ifs at h with h0 h1
    obtain rfl := Except.ok.inj h
    intro t
    cases t with
    | zero => exact Amount.toNat_ofNat_lt h0
    | one => exact Amount.toNat_ofNat_lt h1
  · intro h
    have h0 : p.vault .zero < 2 ^ 64 := h .zero ▸ (b.get .zero).toNat_lt
    have h1 : p.vault .one < 2 ^ 64 := h .one ▸ (b.get .one).toNat_lt
    rw [if_pos h0, if_pos h1, ← h .zero, ← h .one, UInt64.ofNat_toNat, UInt64.ofNat_toNat]
    rfl

theorem vault_lt_of_balances {p : Pool} {b : PerToken Amount} (h : p.vaultBalances = .ok b)
    (t : Token) : p.vault t < 2 ^ 64 := by
  rw [← vaultBalances_eq_ok_iff.1 h t]
  exact (b.get t).toNat_lt

/-- A pool tells its balances just when each vault fits its word. -/
theorem exists_vaultBalances_iff {p : Pool} :
    (∃ balances, p.vaultBalances = .ok balances) ↔ ∀ t, p.vault t < 2 ^ 64 := by
  constructor
  · rintro ⟨balances, h⟩
    exact vault_lt_of_balances h
  · intro h
    rw [vaultBalances_eq, if_pos (h .zero), if_pos (h .one)]
    exact ⟨_, rfl⟩

/-- The pool after a swap at `q`, whether its balances fit or not. -/
def booked (p : Pool) (q : Quote) : Pool :=
  { p with
    reserves := (p.reserves.set q.direction.sold
      (p.reserves.get q.direction.sold + UInt64.ofNat q.credit)).set q.direction.bought
        (p.reserves.get q.direction.bought - q.amountOut)
    protocolFees := p.protocolFees.set q.direction.sold
      (p.protocolFees.get q.direction.sold + q.fees.protocolFee)
    fundFees := p.fundFees.set q.direction.sold
      (p.fundFees.get q.direction.sold + q.fees.fundFee) }

theorem toNat_invariant (p : Pool) : p.invariant.toNat = p.product :=
  Curve.toNat_invariant p.reserves

theorem invariant_lt_iff (p q : Pool) :
    q.invariant < p.invariant ↔ q.product < p.product := by
  rw [BitVec.lt_def, toNat_invariant, toNat_invariant]

theorem accumulate_eq (a : Accumulator) (current delta : Amount) :
    accumulate a current delta =
      if 2 ^ 64 ≤ current.toNat + delta.toNat then .error (.accumulatorOverflow a current delta)
      else .ok (current + delta) := by
  unfold accumulate
  split_ifs with h
  · rw [Amount.add?_eq_none_iff.2 h]
  · rw [Amount.add?_of_lt (not_le.1 h)]

/-- The last checks of a booking, on the books as they would be. -/
theorem closing_checks_eq (p next : Pool) :
    (do
      let _ ← next.vaultBalances
      if next.invariant < p.invariant then
        throw (Error.invariantDecreased p.invariant next.invariant)
      return next) =
      if 2 ^ 64 ≤ next.vault .zero then .error (.overflow (.vaultBalance .zero))
      else if 2 ^ 64 ≤ next.vault .one then .error (.overflow (.vaultBalance .one))
      else if next.product < p.product then
        .error (.invariantDecreased p.invariant next.invariant)
      else .ok next := by
  rw [vaultBalances_eq]
  by_cases h0 : 2 ^ 64 ≤ next.vault .zero
  · rw [if_pos h0, if_neg (not_lt.2 h0), error_bind]
  by_cases h1 : 2 ^ 64 ≤ next.vault .one
  · rw [if_neg h0, if_pos h1, if_pos (not_le.1 h0), if_neg (not_lt.2 h1), error_bind]
  rw [if_neg h0, if_neg h1, if_pos (not_le.1 h0), if_pos (not_le.1 h1), ok_bind]
  simp only [invariant_lt_iff, throw_eq_error, error_bind, pure_eq_ok]

/-- Every answer of the booking of a quote. -/
theorem book_eq (p : Pool) (q : Quote) :
    p.book q =
      let reserveIn := p.reserves.get q.direction.sold
      let reserveOut := p.reserves.get q.direction.bought
      let protocolFee := p.protocolFees.get q.direction.sold
      let fundFee := p.fundFees.get q.direction.sold
      if q.amountIn.toNat < q.fees.protocolFee.toNat + q.fees.fundFee.toNat then
        .error (.fault .subtraction)
      else if 2 ^ 64 ≤ reserveIn.toNat + q.credit then .error (.overflow .inputCredit)
      else if reserveOut.toNat ≤ q.amountOut.toNat then
        .error (.insufficientLiquidity q.amountOut reserveOut)
      else if 2 ^ 64 ≤ protocolFee.toNat + q.fees.protocolFee.toNat then
        .error (.accumulatorOverflow (.protocol q.direction.sold) protocolFee q.fees.protocolFee)
      else if 2 ^ 64 ≤ fundFee.toNat + q.fees.fundFee.toNat then
        .error (.accumulatorOverflow (.fund q.direction.sold) fundFee q.fees.fundFee)
      else if 2 ^ 64 ≤ (p.booked q).vault .zero then .error (.overflow (.vaultBalance .zero))
      else if 2 ^ 64 ≤ (p.booked q).vault .one then .error (.overflow (.vaultBalance .one))
      else if (p.booked q).product < p.product then
        .error (.invariantDecreased p.invariant (p.booked q).invariant)
      else .ok (p.booked q) := by
  rw [book, Quote.reserveCredit_eq]
  dsimp only
  by_cases hshares : q.amountIn.toNat < q.fees.protocolFee.toNat + q.fees.fundFee.toNat
  · rw [if_pos hshares, if_neg (by omega), error_bind]
  have hcredit : (UInt64.ofNat q.credit).toNat = q.credit :=
    Amount.toNat_ofNat_lt (by have := q.amountIn.toNat_lt; unfold Quote.credit; omega)
  rw [if_neg hshares, if_pos (by omega), ok_bind]
  by_cases hin : 2 ^ 64 ≤ (p.reserves.get q.direction.sold).toNat + q.credit
  · rw [if_pos hin, Amount.add?_eq_none_iff.2 (hcredit.symm ▸ hin)]
    simp only [throw_eq_error, error_bind]
  rw [if_neg hin, Amount.add?_of_lt (by omega)]
  simp only [pure_eq_ok, ok_bind]
  by_cases hout : (p.reserves.get q.direction.bought).toNat ≤ q.amountOut.toNat
  · rw [if_pos hout]
    -- Taking too much and taking all are two checks with one answer.
    rcases hout.lt_or_eq with hlt | heq
    · rw [Amount.sub?_eq_none_iff.2 hlt]
      simp only [throw_eq_error, error_bind]
    · have hzero : p.reserves.get q.direction.bought - q.amountOut = 0 := by
        rw [UInt64.toNat_inj.1 heq, UInt64.sub_self]
      rw [Amount.sub?_of_le heq.ge]
      simp only [hzero, ↓reduceIte, throw_eq_error, error_bind]
  have hrest : ¬p.reserves.get q.direction.bought - q.amountOut = 0 := by
    rw [Amount.ne_zero_iff, UInt64.toNat_sub_of_le _ _ (UInt64.le_iff_toNat_le.2 (by omega))]
    omega
  rw [if_neg hout, Amount.sub?_of_le (by omega)]
  simp only [hrest, ↓reduceIte, accumulate_eq]
  by_cases hp : 2 ^ 64 ≤ (p.protocolFees.get q.direction.sold).toNat + q.fees.protocolFee.toNat
  · rw [if_pos hp, if_pos hp, error_bind]
  rw [if_neg hp, if_neg hp, ok_bind]
  by_cases hf : 2 ^ 64 ≤ (p.fundFees.get q.direction.sold).toNat + q.fees.fundFee.toNat
  · rw [if_pos hf, if_pos hf, error_bind]
  rw [if_neg hf, if_neg hf, ok_bind]
  exact closing_checks_eq p (p.booked q)

section Booked

variable (p : Pool) (q : Quote)

@[simp] theorem booked_protocolFees_bought :
    (p.booked q).protocolFees.get q.direction.bought = p.protocolFees.get q.direction.bought :=
  PerToken.get_bought_set_sold _ _ _

@[simp] theorem booked_fundFees_bought :
    (p.booked q).fundFees.get q.direction.bought = p.fundFees.get q.direction.bought :=
  PerToken.get_bought_set_sold _ _ _

variable {p q}

theorem booked_reserveIn
    (h : (p.reserves.get q.direction.sold).toNat + q.credit < 2 ^ 64) :
    ((p.booked q).reserves.get q.direction.sold).toNat =
      (p.reserves.get q.direction.sold).toNat + q.credit := by
  have hcredit : (UInt64.ofNat q.credit).toNat = q.credit := Amount.toNat_ofNat_lt (by omega)
  rw [booked, PerToken.get_set_sold, UInt64.toNat_add, hcredit]
  exact Nat.mod_eq_of_lt h

theorem booked_reserveOut
    (h : q.amountOut.toNat ≤ (p.reserves.get q.direction.bought).toNat) :
    ((p.booked q).reserves.get q.direction.bought).toNat =
      (p.reserves.get q.direction.bought).toNat - q.amountOut.toNat := by
  rw [booked, PerToken.get_set_bought]
  exact UInt64.toNat_sub_of_le _ _ (UInt64.le_iff_toNat_le.2 h)

theorem booked_protocolFee
    (h : (p.protocolFees.get q.direction.sold).toNat + q.fees.protocolFee.toNat < 2 ^ 64) :
    ((p.booked q).protocolFees.get q.direction.sold).toNat =
      (p.protocolFees.get q.direction.sold).toNat + q.fees.protocolFee.toNat := by
  rw [booked, PerToken.get_set_self, UInt64.toNat_add]
  exact Nat.mod_eq_of_lt h

theorem booked_fundFee
    (h : (p.fundFees.get q.direction.sold).toNat + q.fees.fundFee.toNat < 2 ^ 64) :
    ((p.booked q).fundFees.get q.direction.sold).toNat =
      (p.fundFees.get q.direction.sold).toNat + q.fees.fundFee.toNat := by
  rw [booked, PerToken.get_set_self, UInt64.toNat_add]
  exact Nat.mod_eq_of_lt h

theorem booked_vault_sold
    (hs : q.fees.protocolFee.toNat + q.fees.fundFee.toNat ≤ q.amountIn.toNat)
    (hi : (p.reserves.get q.direction.sold).toNat + q.credit < 2 ^ 64)
    (hp : (p.protocolFees.get q.direction.sold).toNat + q.fees.protocolFee.toNat < 2 ^ 64)
    (hf : (p.fundFees.get q.direction.sold).toNat + q.fees.fundFee.toNat < 2 ^ 64) :
    (p.booked q).vault q.direction.sold = p.vault q.direction.sold + q.amountIn.toNat := by
  rw [vault, vault, booked_reserveIn hi, booked_protocolFee hp, booked_fundFee hf, Quote.credit]
  omega

theorem booked_vault_bought
    (h : q.amountOut.toNat ≤ (p.reserves.get q.direction.bought).toNat) :
    (p.booked q).vault q.direction.bought + q.amountOut.toNat = p.vault q.direction.bought := by
  rw [vault, vault, booked_reserveOut h, booked_protocolFees_bought, booked_fundFees_bought]
  omega

theorem booked_product
    (hi : (p.reserves.get q.direction.sold).toNat + q.credit < 2 ^ 64)
    (ho : q.amountOut.toNat ≤ (p.reserves.get q.direction.bought).toNat) :
    (p.booked q).product = ((p.reserves.get q.direction.sold).toNat + q.credit) *
      ((p.reserves.get q.direction.bought).toNat - q.amountOut.toNat) := by
  rw [product_eq _ q.direction, booked_reserveIn hi, booked_reserveOut ho]

end Booked

/-- The books of a pool can take a quote. -/
structure Admits (p : Pool) (q : Quote) : Prop where
  shares_le : q.fees.protocolFee.toNat + q.fees.fundFee.toNat ≤ q.amountIn.toNat
  reserveIn_lt : (p.reserves.get q.direction.sold).toNat + q.credit < 2 ^ 64
  out_lt : q.amountOut.toNat < (p.reserves.get q.direction.bought).toNat
  protocolFee_lt :
    (p.protocolFees.get q.direction.sold).toNat + q.fees.protocolFee.toNat < 2 ^ 64
  fundFee_lt : (p.fundFees.get q.direction.sold).toNat + q.fees.fundFee.toNat < 2 ^ 64
  vault_lt : ∀ t, (p.booked q).vault t < 2 ^ 64
  product_le : p.product ≤ (p.booked q).product

/-- A quote is booked just when the books can take it. -/
theorem book_eq_ok_iff {p next : Pool} {q : Quote} :
    p.book q = .ok next ↔ p.Admits q ∧ next = p.booked q := by
  rw [book_eq]
  dsimp only
  constructor
  · intro h
    split_ifs at h with hs hi ho hp hf h0 h1 hk
    obtain rfl := Except.ok.inj h
    refine ⟨⟨not_lt.1 hs, not_le.1 hi, not_le.1 ho, not_le.1 hp, not_le.1 hf, ?_, not_lt.1 hk⟩, rfl⟩
    rw [Direction.zeroForOne.forall_token]
    exact ⟨not_le.1 h0, not_le.1 h1⟩
  · rintro ⟨h, rfl⟩
    rw [if_neg (not_lt.2 h.shares_le), if_neg (not_le.2 h.reserveIn_lt),
      if_neg (not_le.2 h.out_lt), if_neg (not_le.2 h.protocolFee_lt),
      if_neg (not_le.2 h.fundFee_lt), if_neg (not_le.2 (h.vault_lt .zero)),
      if_neg (not_le.2 (h.vault_lt .one)), if_neg (not_lt.2 h.product_le)]

namespace Admits

variable {p : Pool} {q : Quote}

theorem vault_sold (h : p.Admits q) :
    (p.booked q).vault q.direction.sold = p.vault q.direction.sold + q.amountIn.toNat :=
  booked_vault_sold h.shares_le h.reserveIn_lt h.protocolFee_lt h.fundFee_lt

theorem vault_bought (h : p.Admits q) :
    (p.booked q).vault q.direction.bought + q.amountOut.toNat = p.vault q.direction.bought :=
  booked_vault_bought h.out_lt.le

theorem reserveIn (h : p.Admits q) :
    ((p.booked q).reserves.get q.direction.sold).toNat =
      (p.reserves.get q.direction.sold).toNat + q.credit := booked_reserveIn h.reserveIn_lt

theorem reserveOut (h : p.Admits q) :
    ((p.booked q).reserves.get q.direction.bought).toNat =
      (p.reserves.get q.direction.bought).toNat - q.amountOut.toNat := booked_reserveOut h.out_lt.le

theorem reserves_pos (h : p.Admits q) (hpos : ∀ t, 0 < (p.reserves.get t).toNat) (t : Token) :
    0 < ((p.booked q).reserves.get t).toNat := by
  revert t
  rw [q.direction.forall_token, h.reserveIn, h.reserveOut]
  exact ⟨Nat.add_pos_left (hpos _) _, Nat.sub_pos_of_lt h.out_lt⟩

end Admits

end Pool

end ConstantProduct
