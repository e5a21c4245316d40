import Mathlib
import ConstantProduct.Proofs.Refusals

namespace ConstantProduct

namespace FeeTier

inductive Field where
  | tradeRate (sold : Token)
  | protocolRate
  | fundRate
  | creationFee
  | creationDisabled
  deriving DecidableEq, Repr

def setting (t : FeeTier) : Field → TierUpdate
  | .tradeRate .zero => .tradeRateZeroToOne t.tradeRates.zero
  | .tradeRate .one => .tradeRateOneToZero t.tradeRates.one
  | .protocolRate => .protocolRate t.protocolRate
  | .fundRate => .fundRate t.fundRate
  | .creationFee => .creationFee t.creationFee
  | .creationDisabled => .creationDisabled t.creationDisabled

end FeeTier

def TierUpdate.sets : TierUpdate → FeeTier.Field
  | tradeRateZeroToOne _ => .tradeRate .zero
  | tradeRateOneToZero _ => .tradeRate .one
  | protocolRate _ => .protocolRate
  | fundRate _ => .fundRate
  | creationFee _ => .creationFee
  | creationDisabled _ => .creationDisabled

namespace FeeTier

theorem ext_setting {t t' : FeeTier} (hindex : t.index = t'.index)
    (h : ∀ f, t.setting f = t'.setting f) : t = t' := by
  obtain ⟨index, ⟨rate0, rate1⟩, protocol, fund, fee, disabled⟩ := t
  obtain ⟨index', ⟨rate0', rate1'⟩, protocol', fund', fee', disabled'⟩ := t'
  have h0 := h (.tradeRate .zero)
  have h1 := h (.tradeRate .one)
  have hprotocol := h .protocolRate
  have hfund := h .fundRate
  have hfee := h .creationFee
  have hdisabled := h .creationDisabled
  simp_all [setting]

/-- The tier `t'` is `t` but for the one field that the update sets. -/
structure Replaces (u : TierUpdate) (t t' : FeeTier) : Prop where
  index : t'.index = t.index
  setting : ∀ f, t'.setting f = if f = u.sets then u else t.setting f

variable {t t' : FeeTier} {u : TierUpdate}

theorem replaces_replace (t : FeeTier) (u : TierUpdate) : Replaces u t (t.replace u) := by
  constructor
  · cases u <;> rfl
  · intro f
    cases u <;> rcases f with ⟨⟨⟩⟩ | _ | _ | _ | _ <;> rfl

theorem replaces_iff : Replaces u t t' ↔ t' = t.replace u := by
  have hreplace := t.replaces_replace u
  constructor
  · intro h
    apply ext_setting (h.index.trans hreplace.index.symm)
    exact fun f => (h.setting f).trans (hreplace.setting f).symm
  · rintro rfl
    exact hreplace

/-- An update is applied if the tier is valid with it, and changes nothing otherwise. -/
theorem apply_answer (t : FeeTier) (u : TierUpdate) :
    (t.apply u).answer = (t.replace u).validate := by
  rw [apply, update]
  rcases (t.replace u).validate with e | ⟨⟩ <;> rfl

theorem apply_next (t : FeeTier) (u : TierUpdate) :
    (t.apply u).next = if (t.apply u).answer = .ok () then t.replace u else t := by
  rw [apply, update]
  rcases (t.replace u).validate with e | ⟨⟩ <;> rfl

theorem index_apply (t : FeeTier) (u : TierUpdate) : (t.apply u).next.index = t.index := by
  rw [apply_next]
  split_ifs
  · exact (t.replaces_replace u).index
  · rfl

theorem validate_apply (h : t.validate = .ok ()) (u : TierUpdate) :
    (t.apply u).next.validate = .ok () := by
  rw [apply_next]
  split_ifs with hu
  · rwa [← apply_answer]
  · exact h

section Run

def accepted (t : FeeTier) (us : List TierUpdate) : List TierUpdate :=
  ((us.zip (t.history us)).filter (·.2.answer = .ok ())).map (·.1)

variable (t : FeeTier) (u : TierUpdate) (us : List TierUpdate)

@[simp] theorem run_nil : t.run [] = t := rfl

@[simp] theorem run_cons : t.run (u :: us) = (t.apply u).next.run us := rfl

@[simp] theorem history_cons : t.history (u :: us) = t.apply u :: (t.apply u).next.history us := rfl

theorem accepted_cons : t.accepted (u :: us) =
    if (t.apply u).answer = .ok () then u :: (t.apply u).next.accepted us
    else (t.apply u).next.accepted us := by
  by_cases h : (t.apply u).answer = .ok () <;> simp [accepted, h]

theorem length_history : (t.history us).length = us.length := by
  induction us generalizing t with
  | nil => rfl
  | cons u us ih => simp [ih]

theorem getElem?_history {i : ℕ} (h : us[i]? = some u) :
    (t.history us)[i]? = some ((t.run (us.take i)).apply u) := getElem?_outcomes apply t h

theorem index_run : (t.run us).index = t.index := by
  induction us generalizing t with
  | nil => rfl
  | cons u us ih => rw [run_cons, ih, index_apply]

theorem validate_run {t : FeeTier} (h : t.validate = .ok ()) (us : List TierUpdate) :
    (t.run us).validate = .ok () := by
  induction us generalizing t with
  | nil => exact h
  | cons u us ih => exact ih (validate_apply h u)

/-- A field has the last value accepted for it, and its first one where there is none. -/
theorem setting_run (f : Field) :
    (t.run us).setting f = ((t.accepted us).filter (·.sets = f)).getLastD (t.setting f) := by
  induction us generalizing t with
  | nil => rfl
  | cons u us ih =>
    rw [run_cons, ih, accepted_cons, apply_next]
    split_ifs with hu
    · rw [(t.replaces_replace u).setting]
      by_cases hf : u.sets = f
      · rw [List.filter_cons_of_pos (by simpa using hf), List.getLastD_cons, if_pos hf.symm]
      · rw [List.filter_cons_of_neg (by simpa using hf), if_neg (Ne.symm hf)]
    · rfl

end Run

/-- After each update of a sequence a tier that was valid is so, under the index that it had. The
update is accepted if and only if the tier is valid with just the one field replaced, which then it
is; otherwise the tier is as before. In the end each field has the last value accepted for it, or
the one it had at first. -/
theorem updates_keep_valid (h : t.validate = .ok ()) (us : List TierUpdate) :
    (t.history us).length = us.length ∧
    (∀ (i : ℕ) u, us[i]? = some u → ∃ o changed, (t.history us)[i]? = some o ∧
      o.next.validate = .ok () ∧ o.next.index = t.index ∧
      (∀ t', Replaces u (t.run (us.take i)) t' ↔ t' = changed) ∧
      (o.answer = .ok () ↔ changed.validate = .ok ()) ∧
      (o.answer = .ok () → o.next = changed) ∧
      (o.answer ≠ .ok () → o.next = t.run (us.take i))) ∧
    (t.run us).index = t.index ∧
    ∀ f, (t.run us).setting f = ((t.accepted us).filter (·.sets = f)).getLastD (t.setting f) := by
  refine ⟨t.length_history us, ?_, t.index_run us, t.setting_run us⟩
  intro i u hu
  have hvalid := validate_run h (us.take i)
  have hnext := (t.run (us.take i)).apply_next u
  refine ⟨_, _, t.getElem?_history u us hu, validate_apply hvalid u, ?_,
    fun t' => replaces_iff, ?_, ?_, ?_⟩
  · rw [index_apply, index_run]
  · rw [apply_answer]
  · intro hok
    rw [hnext, if_pos hok]
  · intro hno
    rw [hnext, if_neg hno]

def shared : FeeTier := ⟨1, ⟨2500, 2500⟩, 500000, 400000, 10, false⟩

/-- A share for the fund that has to wait for a lower one of the protocol, which then cannot go back
up. -/
def reshared : List TierUpdate :=
  [.fundRate 600000, .protocolRate 100000, .fundRate 600000, .protocolRate 450000]

theorem run_of_reshared :
    shared.validate = .ok () ∧
    shared.run reshared = ⟨1, ⟨2500, 2500⟩, 100000, 600000, 10, false⟩ ∧
    ((shared.history reshared).map fun o => decide (o.answer = .ok ())) =
      [false, true, true, false] := by
  have hvalid : shared.validate = .ok () := by decide
  obtain ⟨-, -, hindex, hsettings⟩ := updates_keep_valid hvalid reshared
  refine ⟨hvalid, ext_setting (hindex.trans rfl) ?_, by decide⟩
  intro f
  rw [hsettings]
  rcases f with ⟨⟨⟩⟩ | _ | _ | _ | _ <;> decide

end FeeTier

end ConstantProduct
