import Mathlib
import ConstantProduct.Proofs.Conservation

namespace ConstantProduct

namespace Pool

/-- The pool `p'` is `p` with some of its fees paid out, and is the same otherwise. -/
structure PaidOut (p p' : Pool) (taken : Party → Token → ℕ) : Prop where
  rest : p' = { p with protocolFees := p'.protocolFees, fundFees := p'.fundFees }
  unclaimed : ∀ party t,
    ((party.unclaimed p').get t).toNat + taken party t = ((party.unclaimed p).get t).toNat

namespace PaidOut

variable {p p' p'' : Pool} {taken taken' : Party → Token → ℕ} {q : Quote} {timestamp : Int64}

theorem trans (h : PaidOut p p' taken) (h' : PaidOut p' p'' taken') :
    PaidOut p p'' fun party t => taken party t + taken' party t where
  rest := by rw [h'.rest, h.rest]
  unclaimed party t := by
    have hfirst := h.unclaimed party t
    have hthen := h'.unclaimed party t
    omega

theorem reserves (h : PaidOut p p' taken) : p'.reserves = p.reserves := by rw [h.rest]

theorem opens (h : PaidOut p p' taken) (hopen : p.Open timestamp) : p'.Open timestamp := by
  rw [h.rest]
  exact ⟨hopen.active, hopen.enabled, hopen.opened⟩

theorem unclaimed_le (h : PaidOut p p' taken) (party : Party) (t : Token) :
    ((party.unclaimed p').get t).toNat ≤ ((party.unclaimed p).get t).toNat :=
  Nat.le_of_add_right_le (h.unclaimed party t).le

theorem vault_le (h : PaidOut p p' taken) (t : Token) : p'.vault t ≤ p.vault t := by
  rw [vault_eq, vault_eq, h.reserves]
  exact Nat.add_le_add (Nat.add_le_add_left (h.unclaimed_le .protocol t) _)
    (h.unclaimed_le .fund t)

theorem share_lt (h : p.PaidOut p' taken) (ha : p.Admits q) (party : Party) :
    ((party.unclaimed p').get q.direction.sold).toNat + (party.share q.fees).toNat < 2 ^ 64 :=
  (Nat.add_le_add_right (h.unclaimed_le party _) _).trans_lt (ha.share_lt party)

/-- What has been paid out is missing after a swap as well, and nothing else is. -/
theorem booked (h : p.PaidOut p' taken) (ha : p.Admits q) :
    (p.booked q).PaidOut (p'.booked q) taken where
  rest := by
    rw [h.rest]
    rfl
  unclaimed party := by
    have hsold := h.unclaimed party q.direction.sold
    have hbought := h.unclaimed party q.direction.bought
    obtain ⟨hsold₁, hbought₁⟩ := unclaimed_booked party (ha.share_lt party)
    obtain ⟨hsold₂, hbought₂⟩ := unclaimed_booked party (h.share_lt ha party)
    rw [q.direction.forall_token, hsold₁, hsold₂, hbought₁, hbought₂]
    exact ⟨by omega, hbought⟩

theorem admits (h : PaidOut p p' taken) (ha : p.Admits q) : p'.Admits q where
  shares_le := ha.shares_le
  reserveIn_lt := h.reserves ▸ ha.reserveIn_lt
  out_lt := h.reserves ▸ ha.out_lt
  protocolFee_lt := h.share_lt ha .protocol
  fundFee_lt := h.share_lt ha .fund
  vault_lt t := ((h.booked ha).vault_le t).trans_lt (ha.vault_lt t)
  product_le := by
    have hproduct := ha.product_le
    rw [h.rest]
    exact hproduct

end PaidOut

end Pool

def Party.asked : Party → Token → Ledger.Op → ℕ
  | protocol, t, .collectProtocol requested => (requested.get t).toNat
  | fund, t, .collectFund requested => (requested.get t).toNat
  | _, _, _ => 0

def Party.requested (party : Party) (t : Token) (ops : List Ledger.Op) : ℕ :=
  (ops.map (party.asked t)).sum

namespace Ledger

section Swap

variable {l l' : Ledger} {r : Request} {tier : FeeTier} {timestamp : Int64} {s : Staged}
  {taken : Party → Token → ℕ}

theorem quote_of_paidOut (h : l.pool.PaidOut l'.pool taken) (r : Request) (tier : FeeTier) :
    l'.quote r tier = l.quote r tier := by
  rw [quote, quote, h.reserves]

/-- A swap that passes still does so when fees have been paid out, and writes the same but for
these. -/
theorem stage_of_paidOut (h : l.pool.PaidOut l'.pool taken) (horacle : l'.oracle = l.oracle)
    (hs : l.stage r tier timestamp = .ok s) :
    ∃ s', l'.stage r tier timestamp = .ok s' ∧ s'.quote = s.quote ∧
      s'.observation = s.observation ∧ s.pool.PaidOut s'.pool taken := by
  obtain ⟨hopen, hq, haccepts, hadmits, hpos, htimely, hpool, hobservation⟩ := stage_eq_ok_iff.1 hs
  have hbooked : s.pool.PaidOut (l'.pool.booked s.quote) taken := hpool ▸ h.booked hadmits
  refine ⟨⟨s.quote, l'.pool.booked s.quote, s.observation⟩, ?_, rfl, rfl, hbooked⟩
  refine stage_eq_ok_iff.2 ⟨h.opens hopen, ?_, haccepts, h.admits hadmits, ?_, ?_, rfl, ?_⟩
  · rw [quote_of_paidOut h, hq]
  · rw [hbooked.reserves]
    exact hpos
  · rw [horacle]
    exact htimely
  · rw [horacle, hbooked.reserves]
    exact hobservation

end Swap

section Run

variable (l : Ledger)

theorem taken_step (op : Op) (party : Party) (t : Token) :
    party.taken t (op, (l.step op).answer) =
      min (party.asked t op) ((party.unclaimed l.pool).get t).toNat := by
  cases op with
  | swap r tier timestamp => cases party <;> exact (Nat.zero_min _).symm
  | quote r tier => cases party <;> exact (Nat.zero_min _).symm
  | collectProtocol requested =>
    cases party with
    | protocol => exact Pool.toNat_covered requested l.pool.protocolFees t
    | fund => exact (Nat.zero_min _).symm
  | collectFund requested =>
    cases party with
    | protocol => exact (Nat.zero_min _).symm
    | fund => exact Pool.toNat_covered requested l.pool.fundFees t
  | setStatus bits => cases party <;> exact (Nat.zero_min _).symm

theorem receipts_cons_eq_nil_iff {op : Op} {ops : List Op} :
    l.receipts (op :: ops) = [] ↔
      (l.step op).answer.receipt? = none ∧ (l.step op).next.receipts ops = [] := by
  rw [receipts_eq_journal, receipts_eq_journal, journal_cons]
  rcases h : (l.step op).answer.receipt? with _ | receipt <;> simp [h]

/-- Where no swap passes, collections take what they ask for together, as far as there is as
much. -/
theorem claimed_eq_min {ops : List Op} (h : l.receipts ops = []) (party : Party) (t : Token) :
    party.claimed t (l.journal ops) =
      min (party.requested t ops) ((party.unclaimed l.pool).get t).toNat := by
  induction ops generalizing l with
  | nil => exact (Nat.zero_min _).symm
  | cons op ops ih =>
    obtain ⟨hnone, hrest⟩ := (receipts_cons_eq_nil_iff l).1 h
    have htaken := taken_step l op party t
    have hunclaimed := unclaimed_step l op party t
    have hclaimed : party.claimed t (l.journal (op :: ops)) =
        party.taken t (op, (l.step op).answer) +
          party.claimed t ((l.step op).next.journal ops) := by simp [Party.claimed]
    have hrequested : party.requested t (op :: ops) =
        party.asked t op + party.requested t ops := by simp [Party.requested]
    rw [hnone, Option.toList_none, Party.accrued_nil] at hunclaimed
    rw [hclaimed, hrequested, ih _ hrest]
    omega

def collections (requests : List (Party × PerToken Amount)) : List Op :=
  requests.map fun request => request.1.collection request.2

/-- A collection pays out of the fees of a pool, and does nothing else. -/
theorem paidOut_step (collector : Party) (requested : PerToken Amount) :
    let op := collector.collection requested
    (l.step op).next.oracle = l.oracle ∧ l.pool.PaidOut (l.step op).next.pool
      fun party t => party.taken t (op, (l.step op).answer) := by
  intro op
  have hnone : (l.step op).answer.receipt? = none := by cases collector <;> rfl
  refine ⟨?_, ?_, ?_⟩
  · cases collector <;> rfl
  · cases collector <;> rfl
  · intro party t
    have hunclaimed := unclaimed_step l op party t
    rwa [hnone, Option.toList_none, Party.accrued_nil] at hunclaimed

theorem paidOut_run (requests : List (Party × PerToken Amount)) :
    (l.run (collections requests)).oracle = l.oracle ∧
      l.pool.PaidOut (l.run (collections requests)).pool
        fun party t => party.claimed t (l.journal (collections requests)) := by
  refine run_invariant (P := fun l' js => l'.oracle = l.oracle ∧
    l.pool.PaidOut l'.pool fun party t => party.claimed t js) ?_ ⟨rfl, rfl, fun party t => rfl⟩
  rintro l' js op hop ⟨horacle, hpaid⟩
  obtain ⟨⟨collector, requested⟩, -, rfl⟩ := List.mem_map.1 hop
  obtain ⟨hkept, hpays⟩ := paidOut_step l' collector requested
  simp only [Party.claimed_concat]
  exact ⟨hkept.trans horacle, hpaid.trans hpays⟩

end Run

/-- Collecting fees disturbs no trade. After any collections, whatever they ask for, quotes are what
they were, and a swap that would have passed passes with the same receipt; it leaves the ring and
all of the pool as it would have, but for what the collections paid out of the unclaimed fees. As
long as no swap passes, all that is collected of a token for a party is what was asked for together
or, if that is less, what there was. -/
theorem collecting_disturbs_nothing (l : Ledger) (requests : List (Party × PerToken Amount))
    (r : Request) (tier : FeeTier) (timestamp : Int64) :
    let collected := l.run (collections requests)
    let taken (party : Party) (t : Token) := party.claimed t (l.journal (collections requests))
    collected.quote r tier = l.quote r tier ∧
    (∀ receipt, (l.swap r tier timestamp).answer = .ok receipt →
      (collected.swap r tier timestamp).answer = .ok receipt ∧
      (collected.swap r tier timestamp).next.oracle = (l.swap r tier timestamp).next.oracle ∧
      (l.swap r tier timestamp).next.pool.PaidOut (collected.swap r tier timestamp).next.pool
        taken) ∧
    ∀ ops, l.receipts ops = [] → ∀ (party : Party) t, party.claimed t (l.journal ops) =
      min (party.requested t ops) ((party.unclaimed l.pool).get t).toNat := by
  intro collected taken
  obtain ⟨horacle, hpaid⟩ := paidOut_run l requests
  refine ⟨quote_of_paidOut hpaid r tier, ?_, fun ops => claimed_eq_min l⟩
  intro receipt h
  obtain ⟨s, hs, rfl⟩ := swap_answer_eq_ok_iff.1 h
  obtain ⟨s', hs', hquote, hobservation, hpool⟩ := stage_of_paidOut hpaid horacle hs
  obtain ⟨-, hnext⟩ := swap_of_stage hs
  obtain ⟨-, hnext'⟩ := swap_of_stage hs'
  refine ⟨swap_answer_eq_ok_iff.2 ⟨s', hs', ?_⟩, ?_, ?_⟩
  · rw [Staged.receipt, Staged.receipt, hquote, hpool.reserves]
  · rw [hnext, hnext', hobservation, horacle]
  · rw [hnext, hnext']
    exact hpool

def charged : Ledger := market.run [.swap ⟨.zeroForOne, .exactInput 100000000 0⟩ tenth 200]

def claims : List (Party × PerToken Amount) :=
  [(.protocol, ⟨500000, 1⟩), (.fund, ⟨300000, 0⟩), (.protocol, ⟨1600000, 0⟩)]

def laterPurchase : Request := ⟨.zeroForOne, .exactOutput 1000000 60000⟩

theorem swap_eq_after_claims :
    ∃ receipt, (charged.swap laterPurchase tenth 300).answer = .ok receipt ∧
      ((charged.run (collections claims)).swap laterPurchase tenth 300).answer = .ok receipt ∧
      Party.protocol.claimed .zero (charged.journal (collections claims)) =
        min 2100000 2000000 := by
  obtain ⟨-, hswap, htotal⟩ := collecting_disturbs_nothing charged claims laterPurchase tenth 300
  have hpasses : (charged.swap laterPurchase tenth 300).answer =
      .ok ⟨.zeroForOne, .exactOutput, 55362, 1000000, ⟨5537, 1107, 553⟩,
        ⟨1097053702, 22017348624⟩, 300⟩ := by decide +kernel
  have hnone : charged.receipts (collections claims) = [] := by decide +kernel
  exact ⟨_, hpasses, (hswap _ hpasses).1, htotal _ hnone .protocol .zero⟩

end Ledger

end ConstantProduct
