import Mathlib
import ConstantProduct.Proofs.Refusals
import ConstantProduct.Proofs.Startup
import ConstantProduct.Proofs.TomlLines
import ConstantProduct.Proofs.TomlTables
import ConstantProduct.Settings.Document

namespace ConstantProduct

open Toml Toml.Document

namespace FeeTier

def fields (t : FeeTier) : Entries :=
  [("index", .integer t.index.toNat),
    ("trade_fee_rate_zero_to_one", .integer t.tradeRates.zero.toNat),
    ("trade_fee_rate_one_to_zero", .integer t.tradeRates.one.toNat),
    ("protocol_fee_rate", .integer t.protocolRate.toNat),
    ("fund_fee_rate", .integer t.fundRate.toNat),
    ("create_pool_fee", .integer t.creationFee.toNat),
    ("disable_create_pool", .boolean t.creationDisabled)]

end FeeTier

namespace Settings

def logFields (s : Settings) : Entries :=
  [("level", .string s.logging.level), ("json", .boolean s.logging.json)]

def oracleFields (s : Settings) : Entries := [("capacity", .integer s.oracle.capacity.toNat)]

/-- What a document says before its sections: that there are no tiers, where there are none. -/
def preamble (s : Settings) : Entries := if s.tiers = [] then [("amm_configs", .array [])] else []

def statements (s : Settings) : List Statement :=
  s.preamble.map setting ++ .header ["logging"] :: s.logFields.map setting ++
    .header ["oracle"] :: s.oracleFields.map setting ++
    (s.tiers.map FeeTier.fields).flatMap (item "amm_configs")

section Reading

variable {key : String} {n : UInt64} {l rest text : List Char} {statements : List Statement}

theorem isInt64_iff {n : ℕ} : Text.isInt64 n = true ↔ n < 2 ^ 63 := by
  have hmin : Int64.minValue.toInt = -2 ^ 63 := by decide
  have hmax : Int64.maxValue.toInt = 2 ^ 63 - 1 := by decide
  rw [Text.isInt64, hmin, hmax, Bool.and_eq_true, decide_eq_true_iff, decide_eq_true_iff]
  omega

theorem wordLine?_eq_some_iff :
    wordLine? key n = some l ↔ n.toNat < 2 ^ 63 ∧ line key (natText n.toNat) = l := by
  rw [wordLine?, Option.ite_none_right_eq_some, isInt64_iff, Option.some_inj]

theorem reads_line {w : List Char} {v : Value} (hkey : Bare key) (hw : Written w v)
    (h : Reads rest statements) :
    Reads (line key w ++ rest) (setting (key, v) :: statements) := by
  have hline : line key w ++ rest = key.toList ++ ' ' :: '=' :: ' ' :: (w ++ '\n' :: rest) := by
    simp [line]
  rw [hline]
  exact h.entry hkey hw

theorem reads_word (hkey : Bare key) (hn : n.toNat < 2 ^ 63) (h : Reads rest statements) :
    Reads (line key (natText n.toNat) ++ rest)
      (setting (key, .integer n.toNat) :: statements) :=
  reads_line hkey (written_natural (isInt64_iff.2 hn)) h

theorem reads_tier {t : FeeTier} (ht : tierText? t = some text) (h : Reads rest statements) :
    Reads (text ++ rest) (item "amm_configs" t.fields ++ statements) := by
  simp only [tierText?, Option.bind_eq_bind, Option.bind_eq_some_iff, wordLine?_eq_some_iff] at ht
  obtain ⟨_, ⟨hzero, rfl⟩, _, ⟨hone, rfl⟩, _, ⟨hprotocol, rfl⟩, _, ⟨hfund, rfl⟩, _, ⟨hfee, rfl⟩,
    htext⟩ := ht
  obtain rfl := Option.some.inj htext
  have hindex : t.index.toNat < 2 ^ 63 := by
    have hlt := t.index.toNat_lt
    omega
  simp only [List.append_assoc]
  have hbare : Bare "amm_configs" := by simp [Bare, isBareKey]
  have htitle (l : List Char) : "\n[[amm_configs]]\n".toList ++ l =
      '\n' :: '[' :: '[' :: ("amm_configs".toList ++ ']' :: ']' :: '\n' :: l) := by simp
  rw [htitle]
  refine (Reads.arrayHeader hbare ?_).blank
  refine reads_line (by simp [Bare, isBareKey]) (written_natural (isInt64_iff.2 hindex)) ?_
  refine reads_word (by simp [Bare, isBareKey]) hzero ?_
  refine reads_word (by simp [Bare, isBareKey]) hone ?_
  refine reads_word (by simp [Bare, isBareKey]) hprotocol ?_
  refine reads_word (by simp [Bare, isBareKey]) hfund ?_
  refine reads_word (by simp [Bare, isBareKey]) hfee ?_
  exact reads_line (by simp [Bare, isBareKey]) (written_boolean _) h

theorem reads_tiers {ts : List FeeTier} (hts : tiersText? ts = some text) :
    Reads text ((ts.map FeeTier.fields).flatMap (item "amm_configs")) := by
  induction ts generalizing text with
  | nil =>
    obtain rfl := Option.some.inj hts
    exact reads_nil
  | cons t ts ih =>
    simp only [tiersText?, Option.bind_eq_bind, Option.bind_eq_some_iff] at hts
    obtain ⟨first, hfirst, others, hothers, htext⟩ := hts
    obtain rfl := Option.some.inj htext
    exact reads_tier hfirst (ih hothers)

/-- What is written is read into the statements of the settings. -/
theorem reads_write {s : Settings} (h : s.write? = some text) : Reads text s.statements := by
  simp only [write?, Option.bind_eq_bind, Option.bind_eq_some_iff, wordLine?_eq_some_iff] at h
  obtain ⟨_, ⟨hcapacity, rfl⟩, tiers, htiers, htext⟩ := h
  obtain rfl := Option.some.inj htext
  have hlogging : Bare "logging" := by simp [Bare, isBareKey]
  have horacle : Bare "oracle" := by simp [Bare, isBareKey]
  have hlevel := written_string s.logging.level.toList
  rw [String.ofList_toList] at hlevel
  -- The sections are read the same whether the line for no tiers stands before them or not.
  have hsections : Reads ("[logging]\n".toList ++
      (line "level" (Quoted.write s.logging.level.toList) ++
        (line "json" (boolText s.logging.json) ++ ("\n[oracle]\n".toList ++
          (line "capacity" (natText s.oracle.capacity.toNat) ++ tiers)))))
      (.header ["logging"] :: s.logFields.map setting ++
        .header ["oracle"] :: s.oracleFields.map setting ++
        (s.tiers.map FeeTier.fields).flatMap (item "amm_configs")) := by
    have hfirst (l : List Char) : "[logging]\n".toList ++ l =
        '[' :: ("logging".toList ++ ']' :: '\n' :: l) := by simp
    have hsecond (l : List Char) : "\n[oracle]\n".toList ++ l =
        '\n' :: '[' :: ("oracle".toList ++ ']' :: '\n' :: l) := by simp
    rw [hfirst, hsecond]
    refine Reads.header hlogging ?_
    refine reads_line (by simp [Bare, isBareKey]) hlevel ?_
    refine reads_line (by simp [Bare, isBareKey]) (written_boolean _) ?_
    refine (Reads.header horacle ?_).blank
    exact reads_word (by simp [Bare, isBareKey]) hcapacity (reads_tiers htiers)
  simp only [List.append_assoc]
  unfold statements preamble
  split_ifs with hnone
  · have htiers : Bare "amm_configs" := by simp [Bare, isBareKey]
    have hnothing (l : List Char) : "amm_configs = []\n\n".toList ++ l =
        line "amm_configs" ['[', ']'] ++ '\n' :: l := by simp [line]
    rw [hnothing]
    exact reads_line htiers written_nothing hsections.blank
  · exact hsections

end Reading

section Writing

theorem exists_tierText_iff {t : FeeTier} : (∃ text, tierText? t = some text) ↔
    ((∀ token, (t.tradeRates.get token).toNat < 2 ^ 63) ∧ t.protocolRate.toNat < 2 ^ 63 ∧
      t.fundRate.toNat < 2 ^ 63) ∧ t.creationFee.toNat < 2 ^ 63 := by
  have htokens : (∀ token, (t.tradeRates.get token).toNat < 2 ^ 63) ↔
      t.tradeRates.zero.toNat < 2 ^ 63 ∧ t.tradeRates.one.toNat < 2 ^ 63 :=
    ⟨fun h => ⟨h .zero, h .one⟩, fun h token => by cases token; exacts [h.1, h.2]⟩
  rw [htokens]
  simp [tierText?, Option.bind_eq_some_iff, wordLine?_eq_some_iff, and_assoc]

theorem exists_tiersText_iff {ts : List FeeTier} : (∃ text, tiersText? ts = some text) ↔
    ∀ t ∈ ts, ∃ text, tierText? t = some text := by
  induction ts with
  | nil => simp [tiersText?]
  | cons t ts ih =>
    rw [List.forall_mem_cons, ← ih]
    simp [tiersText?, Option.bind_eq_some_iff]

/-- The rates of a valid tier fit in 63 bits. -/
theorem rates_lt_of_validate {t : FeeTier} (h : t.validate = .ok ()) :
    (∀ token, (t.tradeRates.get token).toNat < 2 ^ 63) ∧ t.protocolRate.toNat < 2 ^ 63 ∧
      t.fundRate.toNat < 2 ^ 63 := by
  have hwhole : Fee.whole.toNat = 1000000 := rfl
  obtain ⟨hrates, hshares⟩ := FeeTier.validate_eq_ok_iff.1 h
  rw [Fee.checkShares_eq] at hshares
  split_ifs at hshares with hprotocol hfund hsum
  refine ⟨fun token => ?_, by omega, by omega⟩
  have hrate := UInt64.le_iff_toNat_le.1 (hrates token)
  omega

/-- Valid settings are written unless a capacity or a fee needs more than 63 bits. -/
theorem exists_toText_iff {s : Settings} (h : s.validate = .ok ()) :
    (∃ text, s.toText = .ok text) ↔
      s.oracle.capacity.toNat < 2 ^ 63 ∧ ∀ t ∈ s.tiers, t.creationFee.toNat < 2 ^ 63 := by
  have hvalid := (validate_eq_ok_iff.1 h).2.2.2
  have hwrite : (∃ text, s.toText = .ok text) ↔ ∃ text, s.write? = some text := by
    unfold toText
    rcases s.write? with _ | text <;> simp
  rw [hwrite]
  simp only [write?, Option.bind_eq_bind, Option.bind_eq_some_iff, wordLine?_eq_some_iff]
  constructor
  · rintro ⟨_, _, ⟨hcapacity, -⟩, tiers, htiers, -⟩
    exact ⟨hcapacity, fun t ht =>
      (exists_tierText_iff.1 (exists_tiersText_iff.1 ⟨tiers, htiers⟩ t ht)).2⟩
  · rintro ⟨hcapacity, hfees⟩
    obtain ⟨tiers, htiers⟩ := exists_tiersText_iff.2 fun t ht =>
      exists_tierText_iff.2 ⟨rates_lt_of_validate (hvalid t ht), hfees t ht⟩
    exact ⟨_, _, ⟨hcapacity, rfl⟩, tiers, htiers, rfl⟩

end Writing

section Building

theorem nodup_fields (t : FeeTier) : (t.fields.map Prod.fst).Nodup := by
  simp [FeeTier.fields]

def sections (s : Settings) : Entries :=
  s.preamble ++ [("logging", Value.table .header s.logFields)] ++
    [("oracle", Value.table .header s.oracleFields)]

def entries (s : Settings) : Entries :=
  s.sections ++ if s.tiers = [] then [] else
    [("amm_configs", Value.tables ((s.tiers.map FeeTier.fields).map (.table .header)))]

theorem keys_preamble (s : Settings) :
    "logging" ∉ s.preamble.map Prod.fst ∧ "oracle" ∉ s.preamble.map Prod.fst := by
  unfold preamble
  split_ifs <;> simp

theorem build?_statements (s : Settings) : build? s.statements = some s.entries := by
  have hpreamble : (s.preamble.map setting).foldlM add? ([], []) = some ([], s.preamble) := by
    unfold preamble
    split_ifs <;> rfl
  have hlogging : (.header ["logging"] :: s.logFields.map setting).foldlM add? ([], s.preamble) =
      some (["logging"], s.preamble ++ [("logging", Value.table .header s.logFields)]) :=
    add_table s.keys_preamble.1 (by simp [logFields])
  have horacle : (.header ["oracle"] :: s.oracleFields.map setting).foldlM add?
      (["logging"], s.preamble ++ [("logging", Value.table .header s.logFields)]) =
      some (["oracle"], s.sections) :=
    add_table (by simp [s.keys_preamble.2]) (by simp [oracleFields])
  have htiers : ∃ path, ((s.tiers.map FeeTier.fields).flatMap (item "amm_configs")).foldlM add?
      (["oracle"], s.sections) = some (path, s.entries) := by
    unfold entries
    split_ifs with hnone
    · rw [hnone, List.append_nil]
      exact ⟨_, rfl⟩
    · refine add_tables ?_ ?_ (by simpa using hnone)
      · simp [sections, preamble, hnone]
      · simp [nodup_fields]
  obtain ⟨path, hpath⟩ := htiers
  simp only [build?, statements, List.foldlM_append, Option.bind_eq_bind]
  rw [hpreamble, Option.bind_some, hlogging, Option.bind_some, horacle, Option.bind_some, hpath]
  rfl

end Building

section Looking

open Setting

theorem uint64?_toNat (n : UInt64) : uint64? n.toNat = some n := by
  have hlt := n.toNat_lt
  rw [uint64?, if_pos ⟨by omega, by simp; omega⟩]
  simp

theorem ofToml_table (origin : Origin) (entries : Entries) :
    ofToml (.table origin entries) = .table (ofTomlEntries entries) := by
  rw [ofToml]

theorem unsigned?_integer (n : ℤ) :
    Reading.strict.unsigned? (ofToml (.integer n)) = uint64? n := by
  rw [ofToml]
  rfl

theorem unsigned?_toNat (n : UInt64) :
    Reading.strict.unsigned? (ofToml (.integer n.toNat)) = some n := by
  rw [unsigned?_integer, uint64?_toNat]

theorem uint16?_toNat (n : UInt16) :
    Reading.strict.uint16? (ofToml (.integer n.toNat)) = some n := by
  have hread := unsigned?_toNat n.toUInt64
  rw [UInt16.toNat_toUInt64] at hread
  rw [Reading.uint16?, hread, Option.bind_eq_bind, Option.bind_some,
    if_pos (by rw [UInt16.toNat_toUInt64]; exact n.toNat_lt)]
  simp

theorem boolean?_ofToml (b : Bool) : Reading.strict.boolean? (ofToml (.boolean b)) = some b := by
  rw [ofToml]
  rfl

theorem text?_ofToml (s : String) : Reading.strict.text? (ofToml (.string s)) = some s := by
  rw [ofToml]
  rfl

section Fields

-- The reading and the trees are variables here, so that nothing of the words in them is evaluated.
variable {r : Reading} {s : Setting}

theorem logging?_eq {level json : Setting} {logging : LogSettings}
    (h : r.fields? ["level", "json"] s = some ([level, json].map some))
    (hlevel : r.text? level = some logging.level) (hjson : r.boolean? json = some logging.json) :
    r.logging? s = some logging := by
  rw [Reading.logging?, h]
  simp [Reading.orDefault, hlevel, hjson]

theorem oracle?_eq {capacity : Setting} {oracle : OracleSettings}
    (h : r.fields? ["capacity"] s = some [some capacity])
    (hcapacity : r.unsigned? capacity = some oracle.capacity) : r.oracle? s = some oracle := by
  rw [Reading.oracle?, h]
  simp [Reading.orDefault, hcapacity]

theorem tier?_eq {index zero one protocol fund fee disabled : Setting} {t : FeeTier}
    (h : r.fields? Reading.tierKeys s =
      some ([index, zero, one, protocol, fund, fee, disabled].map some))
    (hindex : r.uint16? index = some t.index) (hzero : r.unsigned? zero = some t.tradeRates.zero)
    (hone : r.unsigned? one = some t.tradeRates.one)
    (hprotocol : r.unsigned? protocol = some t.protocolRate)
    (hfund : r.unsigned? fund = some t.fundRate) (hfee : r.unsigned? fee = some t.creationFee)
    (hdisabled : r.boolean? disabled = some t.creationDisabled) : r.tier? s = some t := by
  rw [Reading.tier?, h]
  simp [Reading.required, Reading.orDefault, hindex, hzero, hone, hprotocol, hfund, hfee, hdisabled]

theorem settings?_eq {entries : List (String × Setting)} {logging oracle : Setting}
    {settings : Settings} (hl : List.lookup "logging" entries = some logging)
    (ho : List.lookup "oracle" entries = some oracle)
    (hlogging : r.logging? logging = some settings.logging)
    (horacle : r.oracle? oracle = some settings.oracle)
    (htiers : Reading.orDefault r.tiers? [] (List.lookup "amm_configs" entries) =
      some settings.tiers) : r.settings? entries = some settings := by
  rw [Reading.settings?, hl, ho, htiers]
  simp [Reading.orDefault, hlogging, horacle]

end Fields

theorem tier?_fields (t : FeeTier) :
    Reading.strict.tier? (ofToml (.table .header t.fields)) = some t := by
  have hfields : Reading.strict.fields? Reading.tierKeys (ofToml (.table .header t.fields)) =
      some ((t.fields.map fun field => ofToml field.2).map some) := by
    rw [ofToml_table]
    simp [Reading.fields?, FeeTier.fields, ofTomlEntries, Reading.tierKeys, List.lookup]
  exact tier?_eq hfields (uint16?_toNat _) (unsigned?_toNat _) (unsigned?_toNat _)
    (unsigned?_toNat _) (unsigned?_toNat _) (unsigned?_toNat _) (boolean?_ofToml _)

theorem tiers?_items (ts : List FeeTier) :
    (ofTomlItems ((ts.map FeeTier.fields).map (.table .header))).mapM Reading.strict.tier? =
      some ts := by
  induction ts with
  | nil => rfl
  | cons t ts ih =>
    rw [List.map_cons, List.map_cons, ofTomlItems, List.mapM_cons, tier?_fields, ih]
    rfl

theorem lookup_last {key : String} {before : Entries} (h : key ∉ before.map Prod.fst)
    (v : Value) (rest : Entries) :
    List.lookup key (ofTomlEntries (before ++ (key, v) :: rest)) = some (ofToml v) := by
  induction before with
  | nil => rw [List.nil_append, ofTomlEntries, List.lookup_cons_self]
  | cons e before ih =>
    obtain ⟨k, v⟩ := e
    rw [List.map_cons, List.mem_cons, not_or] at h
    rw [List.cons_append, ofTomlEntries, List.lookup_cons, beq_false_of_ne h.1, ih h.2]

theorem lookup_logging (s : Settings) : List.lookup "logging" (ofTomlEntries s.entries) =
    some (ofToml (.table .header s.logFields)) := by
  rw [entries, sections, List.append_assoc, List.append_assoc]
  exact lookup_last s.keys_preamble.1 _ _

theorem lookup_oracle (s : Settings) : List.lookup "oracle" (ofTomlEntries s.entries) =
    some (ofToml (.table .header s.oracleFields)) := by
  rw [entries, sections, List.append_assoc]
  exact lookup_last (by simp [s.keys_preamble.2]) _ _

theorem tiers?_entries (s : Settings) : Reading.orDefault Reading.strict.tiers? []
    (List.lookup "amm_configs" (ofTomlEntries s.entries)) = some s.tiers := by
  unfold entries
  split_ifs with hnone
  · have hlookup : List.lookup "amm_configs" (ofTomlEntries (s.sections ++ [])) =
        some (ofToml (.array [])) := by
      simp [sections, preamble, hnone, ofTomlEntries]
    rw [hlookup, hnone, ofToml]
    rfl
  · rw [lookup_last (by simp [sections, preamble, hnone]), ofToml]
    exact tiers?_items s.tiers

theorem logging?_fields (s : Settings) :
    Reading.strict.logging? (ofToml (.table .header s.logFields)) = some s.logging := by
  have hfields : Reading.strict.fields? ["level", "json"] (ofToml (.table .header s.logFields)) =
      some ((s.logFields.map fun field => ofToml field.2).map some) := by
    rw [ofToml_table]
    simp [Reading.fields?, logFields, ofTomlEntries, List.lookup]
  exact logging?_eq hfields (text?_ofToml _) (boolean?_ofToml _)

theorem oracle?_fields (s : Settings) :
    Reading.strict.oracle? (ofToml (.table .header s.oracleFields)) = some s.oracle := by
  have hfields : Reading.strict.fields? ["capacity"] (ofToml (.table .header s.oracleFields)) =
      some ((s.oracleFields.map fun field => ofToml field.2).map some) := by
    rw [ofToml_table]
    simp [Reading.fields?, oracleFields, ofTomlEntries]
  exact oracle?_eq hfields (unsigned?_toNat _)

theorem settings?_entries (s : Settings) :
    Reading.strict.settings? (ofTomlEntries s.entries) = some s :=
  settings?_eq (lookup_logging s) (lookup_oracle s) (logging?_fields s) (oracle?_fields s)
    (tiers?_entries s)

end Looking

/-- What is written is read back, valid or not. -/
theorem parse?_of_write {s : Settings} {text : List Char} (h : s.write? = some text) :
    parse? (String.ofList text) = some s := by
  have hmark : dropMark text = text := by
    simp only [write?, Option.bind_eq_bind, Option.bind_eq_some_iff] at h
    obtain ⟨_, -, _, -, htext⟩ := h
    obtain rfl := Option.some.inj htext
    split_ifs <;> rfl
  have hread : Document.read? (String.ofList text) = some s.entries := by
    rw [Document.read?, String.toList_ofList, hmark, reads_write h _ (Nat.lt_succ_self _)]
    exact build?_statements s
  rw [parse?, hread]
  exact settings?_entries s

/-- Valid settings are written unless the capacity or a fee for a pool needs more than 63 bits, and
reading what is written gives the settings back. -/
theorem document_restores {s : Settings} (h : s.validate = .ok ()) :
    ((∃ text, s.toText = .ok text) ↔
      s.oracle.capacity.toNat < 2 ^ 63 ∧ ∀ t ∈ s.tiers, t.creationFee.toNat < 2 ^ 63) ∧
    ∀ text, s.toText = .ok text → ofText text = .ok s := by
  refine ⟨exists_toText_iff h, fun text htext => ?_⟩
  unfold toText at htext
  rcases hwrite : s.write? with _ | written <;> rw [hwrite] at htext
  · cases htext
  · obtain rfl := Except.ok.inj htext
    rw [ofText, parse?_of_write hwrite]
    dsimp only
    rw [h]

def awkward : Settings :=
  ⟨⟨"info,\n\"\"\"pools\"='debug' \\ \x01", true⟩, ⟨64⟩,
    [⟨4, ⟨3000, 2500⟩, 120000, 40000, 9223372036854775807, false⟩, ⟨0, ⟨0, 1⟩, 0, 0, 0, true⟩]⟩

theorem ofText_toText_awkward :
    awkward.validate = .ok () ∧ ∃ text, awkward.toText = .ok text ∧ ofText text = .ok awkward := by
  have hvalid : awkward.validate = .ok () := by decide +kernel
  obtain ⟨hwritten, hread⟩ := document_restores hvalid
  obtain ⟨text, htext⟩ := hwritten.2 (by decide)
  exact ⟨hvalid, text, htext, hread text htext⟩

end Settings

end ConstantProduct
