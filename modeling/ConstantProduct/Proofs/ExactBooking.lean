import Mathlib
import ConstantProduct.Proofs.Staging

namespace ConstantProduct.Pool

/-- The books of a pool have room for a quote, in terms of their numbers before it. -/
structure HasRoom (p : Pool) (q : Quote) : Prop where
  reserveIn_lt : (p.reserves.get q.direction.sold).toNat + q.credit < 2 ^ 64
  protocolFee_lt :
    (p.protocolFees.get q.direction.sold).toNat + q.fees.protocolFee.toNat < 2 ^ 64
  fundFee_lt : (p.fundFees.get q.direction.sold).toNat + q.fees.fundFee.toNat < 2 ^ 64
  vaultIn_lt :
    (p.reserves.get q.direction.sold).toNat + q.credit +
      ((p.protocolFees.get q.direction.sold).toNat + q.fees.protocolFee.toNat) +
        ((p.fundFees.get q.direction.sold).toNat + q.fees.fundFee.toNat) < 2 ^ 64
  vaultOut_lt :
    (p.reserves.get q.direction.bought).toNat - q.amountOut.toNat +
      (p.protocolFees.get q.direction.bought).toNat +
        (p.fundFees.get q.direction.bought).toNat < 2 ^ 64
  out_lt : q.amountOut.toNat < (p.reserves.get q.direction.bought).toNat
  invariant_le :
    p.invariant.toNat ≤ ((p.reserves.get q.direction.sold).toNat + q.credit) *
      ((p.reserves.get q.direction.bought).toNat - q.amountOut.toNat)

/-- From one pool to the next just what a quote says has moved. -/
structure Moves (p : Pool) (q : Quote) (next : Pool) : Prop where
  reserve_sold : (next.reserves.get q.direction.sold).toNat =
    (p.reserves.get q.direction.sold).toNat + q.credit
  reserve_bought : (next.reserves.get q.direction.bought).toNat =
    (p.reserves.get q.direction.bought).toNat - q.amountOut.toNat
  vaults : ∃ balances, next.vaultBalances = .ok balances ∧
    (balances.get q.direction.sold).toNat = p.vault q.direction.sold + q.amountIn.toNat ∧
    (balances.get q.direction.bought).toNat + q.amountOut.toNat = p.vault q.direction.bought
  protocolFee_sold : (next.protocolFees.get q.direction.sold).toNat =
    (p.protocolFees.get q.direction.sold).toNat + q.fees.protocolFee.toNat
  fundFee_sold : (next.fundFees.get q.direction.sold).toNat =
    (p.fundFees.get q.direction.sold).toNat + q.fees.fundFee.toNat
  protocolFee_bought : next.protocolFees.get q.direction.bought =
    p.protocolFees.get q.direction.bought
  fundFee_bought : next.fundFees.get q.direction.bought = p.fundFees.get q.direction.bought
  /-- Nothing else has changed. -/
  frame : { p with
    reserves := next.reserves
    protocolFees := next.protocolFees
    fundFees := next.fundFees } = next

variable {p : Pool} {q : Quote}

/-- What the checks find in the books after a quote can be told from the books before it. -/
theorem admits_iff_hasRoom :
    p.Admits q ↔
      q.fees.protocolFee.toNat + q.fees.fundFee.toNat ≤ q.amountIn.toNat ∧ p.HasRoom q := by
  constructor
  · intro h
    have hshares := h.shares_le
    -- The vaults after the quote differ from those before by the payment and by what is sold.
    have hin := h.vault_lt q.direction.sold
    have hout := h.vault_lt q.direction.bought
    have hbought := h.vault_bought
    have hlt := h.out_lt
    have hproduct := h.product_le
    rw [h.vault_sold] at hin
    rw [booked_product h.reserveIn_lt hlt.le, ← toNat_invariant] at hproduct
    unfold vault at hin hbought
    refine ⟨hshares, h.reserveIn_lt, h.protocolFee_lt, h.fundFee_lt, ?_, ?_, hlt, hproduct⟩
    · unfold Quote.credit
      omega
    · unfold vault at hout
      omega
  · rintro ⟨hshares, h⟩
    have hin := h.vaultIn_lt
    have hout := h.vaultOut_lt
    have hbought := booked_vault_bought h.out_lt.le
    have hlt := h.out_lt
    refine ⟨hshares, h.reserveIn_lt, hlt, h.protocolFee_lt, h.fundFee_lt, ?_, ?_⟩
    · rw [q.direction.forall_token,
        booked_vault_sold hshares h.reserveIn_lt h.protocolFee_lt h.fundFee_lt]
      constructor
      · unfold Quote.credit at hin
        unfold vault
        omega
      · unfold vault at hbought ⊢
        omega
    · rw [booked_product h.reserveIn_lt hlt.le, ← toNat_invariant]
      exact h.invariant_le

theorem Admits.moves (h : p.Admits q) : p.Moves q (p.booked q) where
  reserve_sold := h.reserveIn
  reserve_bought := h.reserveOut
  vaults := by
    obtain ⟨balances, hbalances⟩ := exists_vaultBalances_iff.2 h.vault_lt
    have hvault := vaultBalances_eq_ok_iff.1 hbalances
    refine ⟨balances, hbalances, ?_, ?_⟩
    · rw [hvault]
      exact h.vault_sold
    · rw [hvault]
      exact h.vault_bought
  protocolFee_sold := booked_protocolFee h.protocolFee_lt
  fundFee_sold := booked_fundFee h.fundFee_lt
  protocolFee_bought := booked_protocolFees_bought p q
  fundFee_bought := booked_fundFees_bought p q
  frame := rfl

/-- Only shares that exceed the payment make the booking of a quote a fault. -/
theorem book_eq_fault_iff :
    p.book q = .error (.fault .subtraction) ↔
      q.amountIn.toNat < q.fees.protocolFee.toNat + q.fees.fundFee.toNat := by
  constructor
  · intro h
    by_contra hshares
    rw [book_eq] at h
    dsimp only at h
    rw [if_neg hshares] at h
    split_ifs at h <;> cases h
  · intro h
    rw [book_eq]
    exact if_pos h

/-- A pool books any quote exactly, whether it priced it or not. The booking is a fault just when
the protocol's and the fund's share exceed the payment. Otherwise it succeeds just when every number
that it writes is an amount, some of the reserve sold from is left and the product of the reserves
has not fallen. Then the vault of the token sold has gained the payment, that of the token bought
has lost what was sold, the shares are in the accounts of the token sold, and nothing else has
changed. -/
theorem any_quote_booked_exactly (p : Pool) (q : Quote) :
    (p.book q = .error (.fault .subtraction) ↔
      q.amountIn.toNat < q.fees.protocolFee.toNat + q.fees.fundFee.toNat) ∧
    ((∃ next, p.book q = .ok next) ↔
      q.fees.protocolFee.toNat + q.fees.fundFee.toNat ≤ q.amountIn.toNat ∧ p.HasRoom q) ∧
    ∀ next, p.book q = .ok next → p.Moves q next := by
  refine ⟨book_eq_fault_iff, ?_, ?_⟩
  · rw [← admits_iff_hasRoom]
    constructor
    · rintro ⟨next, h⟩
      exact (book_eq_ok_iff.1 h).1
    · intro h
      exact ⟨_, book_eq_ok_iff.2 ⟨h, rfl⟩⟩
  · intro next h
    obtain ⟨hadmits, rfl⟩ := book_eq_ok_iff.1 h
    exact hadmits.moves

/-- A quote that no pool would make, with shares but without a trade fee, is booked to the unit. -/
theorem book_of_unpriced_quote : ∃ next,
    (Ledger.even 1000).pool.book ⟨.zeroForOne, .exactOutput, 0, 0, 100, 1, ⟨0, 30, 20⟩⟩ = .ok next ∧
      (next.protocolFees.get .zero).toNat = 30 ∧ (next.fundFees.get .zero).toNat = 20 ∧
        ∃ balances, next.vaultBalances = .ok balances ∧ (balances.get .zero).toNat = 1100 ∧
          (balances.get .one).toNat + 1 = 1000 := by
  obtain ⟨-, hbooks, hmoves⟩ := any_quote_booked_exactly (Ledger.even 1000).pool
    ⟨.zeroForOne, .exactOutput, 0, 0, 100, 1, ⟨0, 30, 20⟩⟩
  obtain ⟨next, hnext⟩ := hbooks.2 ⟨by decide, by decide, by decide, by decide, by decide,
    by decide, by decide, by decide⟩
  have h := hmoves next hnext
  exact ⟨next, hnext, h.protocolFee_sold, h.fundFee_sold, h.vaults⟩

end ConstantProduct.Pool
