import Mathlib
import ConstantProduct.Settings.Basic
import ConstantProduct.Proofs.RegistryRuns

namespace ConstantProduct

theorem FeeTier.last_eq_some_iff {ts : List FeeTier} (h : (ts.map (·.index)).Nodup) {i : UInt16}
    {t : FeeTier} : (ts.filter (·.index = i)).getLast? = some t ↔ t ∈ ts ∧ t.index = i := by
  have hmem : ∀ t' ∈ ts.filter (·.index = i), t' ∈ ts ∧ t'.index = i := by simp
  constructor
  · intro hlast
    exact hmem t (List.mem_of_getLast? hlast)
  · intro ht
    have hkept : t ∈ ts.filter (·.index = i) := by simpa using ht
    obtain ⟨t', hlast⟩ := Option.isSome_iff_exists.1
      (List.getLast?_isSome.2 (List.ne_nil_of_mem hkept))
    obtain ⟨hmem', hindex⟩ := hmem t' (List.mem_of_getLast? hlast)
    rw [hlast, List.inj_on_of_nodup_map h hmem' ht.1 (hindex.trans ht.2.symm)]

namespace Registry

/-- A registry holds the last tier of each index that was registered, and nothing else has happened
to it. -/
structure Holds (r : Registry) (capacity : UInt64) (ts : List FeeTier) : Prop where
  capacity : r.capacity = capacity
  pools : r.pools = ∅
  tiers : ∀ i, r.tiers[i]? = (ts.filter (·.index = i)).getLast?
  stats : r.stats = ⟨0, (ts.map (·.index)).toFinset.card, 0, 0, 0⟩

variable {r : Registry} {capacity : UInt64} {ts : List FeeTier}

theorem Holds.mem_tiers (h : r.Holds capacity ts) (i : UInt16) :
    i ∈ r.tiers ↔ i ∈ (ts.map (·.index)).toFinset := by
  rw [Std.TreeMap.mem_iff_isSome_getElem?, h.tiers, List.getLast?_isSome]
  simp [List.filter_eq_nil_iff]

theorem Holds.poolIds_eq_nil (h : r.Holds capacity ts) : r.poolIds = [] := by
  rw [poolIds, h.pools]
  rfl

theorem holds_empty (capacity : UInt64) : (empty capacity).Holds capacity [] where
  capacity := rfl
  pools := rfl
  tiers i := by simp [empty]
  stats := rfl

theorem Holds.withTier (h : r.Holds capacity ts) (t : FeeTier) :
    (r.withTier t).Holds capacity (ts ++ [t]) where
  capacity := h.capacity
  pools := h.pools
  tiers i := by
    have hinsert := r.tiers_insert t.index i t
    rw [h.tiers] at hinsert
    by_cases hi : t.index = i <;> simp [Registry.withTier, hinsert, hi]
  stats := by
    have hindices : ((ts ++ [t]).map (·.index)).toFinset =
        insert t.index (ts.map (·.index)).toFinset := by simp
    rw [hindices]
    by_cases hi : t.index ∈ r.tiers
    · rw [Finset.insert_eq_of_mem ((h.mem_tiers _).1 hi)]
      simp [Registry.withTier, hi, h.stats]
    · rw [Finset.card_insert_of_notMem (mt (h.mem_tiers _).2 hi)]
      simp [Registry.withTier, hi, h.stats]

theorem holds_withTiers (capacity : UInt64) (ts : List FeeTier) :
    (ts.foldl Registry.withTier (empty capacity)).Holds capacity ts := by
  -- From the end: the tier registered last takes its index, whatever had it before.
  induction ts using List.reverseRecOn with
  | nil => exact holds_empty capacity
  | append_singleton ts t ih =>
    rw [List.foldl_concat]
    exact ih.withTier t

end Registry

namespace Settings

/-- Tiers are all registered, in order, where each of them is valid, and not otherwise. -/
theorem registerAll_eq_ok_iff {r r' : Registry} {ts : List FeeTier} :
    (registerAll r ts).1 = .ok r' ↔
      (∀ t ∈ ts, t.validate = .ok ()) ∧ r' = ts.foldl Registry.withTier r := by
  induction ts generalizing r with
  | nil => simp [registerAll, eq_comm]
  | cons t ts ih =>
    rcases ht : t.validate with e | ⟨⟩
    · simp [registerAll, Registry.register, ht]
    · simp [registerAll, Registry.register, ht, ih]

theorem registry_eq_ok_iff {s : Settings} {r : Registry} :
    s.registry = .ok r ↔ (∀ t ∈ s.tiers, t.validate = .ok ()) ∧
      r = s.tiers.foldl Registry.withTier (.empty s.oracle.capacity) := by
  rw [← registerAll_eq_ok_iff, registry, buildRegistry]
  rcases registerAll (.empty s.oracle.capacity) s.tiers with ⟨e | r', events⟩ <;> simp

/-- The check of the tiers sees an invalid tier and a repeated index wherever they stand. -/
theorem validateTiers_eq_ok_iff {seen : List UInt16} {ts : List FeeTier} :
    validateTiers seen ts = .ok () ↔ (ts.map (·.index)).Nodup ∧
      (∀ t ∈ ts, t.index ∉ seen) ∧ ∀ t ∈ ts, t.validate = .ok () := by
  induction ts generalizing seen with
  | nil => simp [validateTiers]
  | cons t ts ih =>
    rw [validateTiers]
    split_ifs with hseen
    · simp [hseen]
    rcases ht : t.validate with e | ⟨⟩
    · simp [ht]
    · -- The index joins those seen, so what was one condition on the rest becomes two.
      have hapart : (∀ t' ∈ ts, t'.index ∉ t.index :: seen) ↔
          t.index ∉ ts.map (·.index) ∧ ∀ t' ∈ ts, t'.index ∉ seen := by
        simp [not_or, forall_and]
      simp only [ih, hapart, List.map_cons, List.nodup_cons, List.forall_mem_cons, hseen, ht]
      tauto

theorem validate_eq_ok_iff {s : Settings} :
    s.validate = .ok () ↔ (∃ c ∈ s.logging.level.toList, Text.isWhiteSpace c = false) ∧
      0 < s.oracle.capacity ∧ (s.tiers.map (·.index)).Nodup ∧
      ∀ t ∈ s.tiers, t.validate = .ok () := by
  have hblank : ¬Text.isBlank s.logging.level = true ↔
      ∃ c ∈ s.logging.level.toList, Text.isWhiteSpace c = false := by simp [Text.isBlank]
  rw [← hblank, UInt64.pos_iff_ne_zero]
  by_cases hlevel : Text.isBlank s.logging.level = true
  · simp [validate, hlevel]
  by_cases hcapacity : s.oracle.capacity = 0
  · simp [validate, hlevel, hcapacity]
  · simp [validate, hlevel, hcapacity, validateTiers_eq_ok_iff]

/-- Settings have a registry if and only if each of their tiers is valid, also if they would not
pass their check. Under an index it then has the last tier of the settings with that index; it
counts each index once, and it has no pool. The check passes if and only if the level is not blank,
there is room for an observation, and the tiers are valid and share no index; the registry then has
just the tiers of the settings. -/
theorem registry_matches (s : Settings) :
    ((∃ r, s.registry = .ok r) ↔ ∀ t ∈ s.tiers, t.validate = .ok ()) ∧
    (∀ r, s.registry = .ok r →
      (∀ i, r.tier? i = (s.tiers.filter (·.index = i)).getLast?) ∧
      r.stats = ⟨0, (s.tiers.map (·.index)).toFinset.card, 0, 0, 0⟩ ∧
      r.poolIds = [] ∧ r.capacity = s.oracle.capacity) ∧
    (s.validate = .ok () ↔ (∃ c ∈ s.logging.level.toList, Text.isWhiteSpace c = false) ∧
      0 < s.oracle.capacity ∧ (s.tiers.map (·.index)).Nodup ∧
      ∀ t ∈ s.tiers, t.validate = .ok ()) ∧
    (s.validate = .ok () → ∃ r, s.registry = .ok r ∧
      (∀ i t, r.tier? i = some t ↔ t ∈ s.tiers ∧ t.index = i) ∧
      r.stats.tiers = s.tiers.length) := by
  have hholds := Registry.holds_withTiers s.oracle.capacity s.tiers
  refine ⟨?_, ?_, validate_eq_ok_iff, ?_⟩
  · simp [registry_eq_ok_iff]
  · intro r h
    obtain ⟨-, rfl⟩ := registry_eq_ok_iff.1 h
    exact ⟨hholds.tiers, hholds.stats, hholds.poolIds_eq_nil, hholds.capacity⟩
  · intro h
    obtain ⟨-, -, hnodup, hvalid⟩ := validate_eq_ok_iff.1 h
    refine ⟨_, registry_eq_ok_iff.2 ⟨hvalid, rfl⟩, fun i t => ?_, ?_⟩
    · rw [Registry.tier?, hholds.tiers, FeeTier.last_eq_some_iff hnodup]
    · rw [hholds.stats, List.toFinset_card_of_nodup hnodup, List.length_map]

def unchecked : Settings :=
  ⟨⟨" ", false⟩, ⟨0⟩,
    [⟨4, ⟨3000, 2500⟩, 0, 0, 0, false⟩, ⟨9, ⟨100, 100⟩, 0, 0, 0, false⟩,
      ⟨4, ⟨500, 500⟩, 120000, 0, 0, true⟩]⟩

def mended : Settings := ⟨defaultLogging, defaultOracle, unchecked.tiers.tail⟩

theorem registry_of_unchecked :
    (∃ r, unchecked.registry = .ok r ∧ r.tier? 4 = some ⟨4, ⟨500, 500⟩, 120000, 0, 0, true⟩ ∧
      r.stats.tiers = 2) ∧
    mended.validate = .ok () ∧ ∃ r, mended.registry = .ok r ∧ r.stats.tiers = 2 := by
  obtain ⟨hbuilt, hregistry, -⟩ := registry_matches unchecked
  obtain ⟨r, h⟩ := hbuilt.2 (by decide)
  obtain ⟨htiers, hstats, -⟩ := hregistry r h
  refine ⟨⟨r, h, (htiers 4).trans (by decide), ?_⟩, ?_⟩
  · rw [hstats]
    decide
  · obtain ⟨-, -, hpasses, hmended⟩ := registry_matches mended
    have hvalid : mended.validate = .ok () := hpasses.2
      ⟨⟨'i', by decide, by decide +kernel⟩, by decide, by decide, by decide⟩
    obtain ⟨r', h', -, hcount⟩ := hmended hvalid
    exact ⟨hvalid, r', h', hcount⟩

end Settings

end ConstantProduct
