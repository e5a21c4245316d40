import Mathlib
import ConstantProduct.Json.Schema
import ConstantProduct.Proofs.Records
import ConstantProduct.Proofs.Runs
import ConstantProduct.Proofs.Window

namespace ConstantProduct

open Json (Codec Fields Plain)

def Json.Codec.Lossless {α : Type} (c : Codec α) : Prop := ∀ a, c.decode (c.encode a) = .ok a

theorem Json.Codec.Restores.decode_encode {α : Type} {c : Codec α} {a : α} (h : c.Restores a) :
    c.decode (c.encode a) = .ok a := by
  have hread := h.read [] Json.closed_nil
  rw [List.append_nil] at hread
  rw [decode, encode, Json.Reader.whole, String.toList_ofList, hread]
  rfl

section Schema

@[simp] theorem PoolId.codec_restores (id : PoolId) : PoolId.codec.Restores id :=
  (Codec.vector_restores fun b _ => Codec.uint8_restores b).partialIso rfl

@[simp] theorem PerToken.codec_restores (p : PerToken Amount) :
    (PerToken.codec .uint64).Restores p :=
  (Codec.vector_restores fun n _ => Codec.uint64_restores n).partialIso rfl

@[simp] theorem Direction.codec_restores (d : Direction) : Direction.codec.Restores d := by
  cases d <;> exact Codec.names_restores (by decide) rfl

@[simp] theorem Mode.codec_restores (m : Mode) : Mode.codec.Restores m := by
  cases m <;> exact Codec.names_restores (by decide) rfl

@[simp] theorem Status.codec_restores (s : Status) : Status.codec.Restores s := by
  cases s <;> exact Codec.names_restores (by decide) rfl

theorem FeeTier.codec_restores (t : FeeTier) : FeeTier.codec.Restores t := by
  refine Fields.record_restores (by constructor <;> decide) ?_ rfl
  simp

theorem TierUpdate.codec_restores (u : TierUpdate) : TierUpdate.codec.Restores u := by
  have hplain : Plain u.field := by cases u <;> simp only [field] <;> decide
  cases u with
  | creationDisabled b =>
    exact Codec.tagged_restores hplain rfl fun rest hrest =>
      Json.Reader.map_apply ((Codec.bool_restores b).read rest hrest) _
  | _ n =>
    exact Codec.tagged_restores hplain rfl fun rest hrest =>
      Json.Reader.map_apply ((Codec.uint64_restores n).read rest hrest) _

theorem FeeSplit.codec_restores (s : FeeSplit) : FeeSplit.codec.Restores s := by
  refine Fields.record_restores (by constructor <;> decide) ?_ rfl
  simp

example : FeeSplit.codec.encode ⟨3, 2, 1⟩ =
    "\x7b\"trade_fee\":3,\"protocol_fee\":2,\"fund_fee\":1\x7d" := by decide

theorem Order.sides_restores {fixed bound : String} (hkeys : [fixed, bound].Nodup)
    (hplain : ∀ key ∈ [fixed, bound], Plain key) (p : Amount × Amount) :
    (Order.sides fixed bound).Restores p := by
  refine Fields.record_restores ⟨hkeys, hplain⟩ ?_ rfl
  simp

@[simp] theorem Order.codec_restores (o : Order) : Order.codec.Restores o := by
  have hplain : Plain o.mode.name := by cases o <;> simp only [mode, Mode.name] <;> decide
  cases o with
  | exactInput amount bound =>
    have hsides : Order.inputSides.Restores (amount, bound) :=
      sides_restores (by decide) (by decide) _
    exact Codec.tagged_restores hplain rfl fun rest hrest =>
      Json.Reader.map_apply (hsides.read rest hrest) _
  | exactOutput amount bound =>
    have hsides : Order.outputSides.Restores (amount, bound) :=
      sides_restores (by decide) (by decide) _
    exact Codec.tagged_restores hplain rfl fun rest hrest =>
      Json.Reader.map_apply (hsides.read rest hrest) _

theorem Request.codec_restores (r : Request) : Request.codec.Restores r := by
  refine Fields.record_restores (by constructor <;> decide) ?_ rfl
  simp

theorem Quote.codec_restores (q : Quote) : Quote.codec.Restores q := by
  refine Fields.record_restores (by constructor <;> decide) ?_ rfl
  simp

theorem Receipt.codec_restores (r : Receipt) : Receipt.codec.Restores r := by
  refine Fields.record_restores (by constructor <;> decide) ?_ rfl
  simp

@[simp] theorem Pool.codec_restores (p : Pool) : Pool.codec.Restores p := by
  refine Fields.record_restores (by constructor <;> decide) ?_ rfl
  simp

theorem Observation.codec_restores (o : Observation) : Observation.codec.Restores o := by
  refine Fields.record_restores (by constructor <;> decide) ?_ rfl
  simp

theorem RingRecord.codec_restores {r : RingRecord} (hcursor : r.cursor < UInt64.size)
    (hlength : r.length < UInt64.size) : RingRecord.codec.Restores r := by
  have hslots : (Codec.list Observation.codec).Restores r.slots.toList :=
    Codec.list_restores fun o _ => Observation.codec_restores o
  refine Fields.record_restores (by constructor <;> decide) ?_ ?_
  · simp [hcursor, hlength, hslots]
  · simp [r.size_lt]

theorem Ring.toRecord_restores (r : Ring) : RingRecord.codec.Restores r.toRecord :=
  RingRecord.codec_restores (r.cursor_lt.trans r.size_lt) (r.length_le.trans_lt r.size_lt)

/-- The record of a ring has its shape, so the ring is read back through it. -/
@[simp] theorem Ring.codec_restores (r : Ring) : Ring.codec.Restores r := by
  have hrecord : Ring.ofRecord r.toRecord = .ok r := Ring.ofRecord_eq_ok_iff.2 rfl
  exact r.toRecord_restores.partialIso (by rw [hrecord])

theorem Ledger.codec_restores (l : Ledger) : Ledger.codec.Restores l := by
  refine Fields.record_restores (by constructor <;> decide) ?_ rfl
  simp

structure Registry.Stats.Fits (s : Registry.Stats) : Prop where
  pools : s.pools < UInt64.size
  tiers : s.tiers < UInt64.size
  swapsApplied : s.swapsApplied < UInt64.size
  swapsRejected : s.swapsRejected < UInt64.size

theorem Registry.Stats.codec_restores {s : Registry.Stats} (h : s.Fits) :
    Registry.Stats.codec.Restores s := by
  refine Fields.record_restores (by constructor <;> decide) ?_ rfl
  simp [h.pools, h.tiers, h.swapsApplied, h.swapsRejected]

end Schema

namespace Ledger

theorem run_append (l : Ledger) (before after : List Op) :
    l.run (before ++ after) = (l.run before).run after := List.foldl_append

theorem history_append (l : Ledger) (before after : List Op) :
    l.history (before ++ after) = l.history before ++ (l.run before).history after := by
  induction before generalizing l with
  | nil => rfl
  | cons op before ih => exact congrArg (l.step op :: ·) (ih (l.step op).next)

end Ledger

/-- Nothing stored is lost. Every value of a stored type is restored from its text, the counts in
statistics being words. A ring is read back through its record, which always has the shape of a
ring; so a run of a ledger that is stored at any point and restored goes on as it would have. -/
theorem stored_values_restored :
    (FeeTier.codec.Lossless ∧ TierUpdate.codec.Lossless ∧ FeeSplit.codec.Lossless ∧
      Quote.codec.Lossless ∧ Receipt.codec.Lossless ∧ Request.codec.Lossless ∧
        Direction.codec.Lossless ∧ PoolId.codec.Lossless ∧ Pool.codec.Lossless ∧
          Observation.codec.Lossless) ∧
    (∀ s : Registry.Stats, s.Fits →
      Registry.Stats.codec.decode (Registry.Stats.codec.encode s) = .ok s) ∧
    (∀ r : Ring, RingRecord.codec.decode (Ring.codec.encode r) = .ok r.toRecord ∧
      Ring.ofRecord r.toRecord = .ok r) ∧
    Ring.codec.Lossless ∧ Ledger.codec.Lossless ∧
    ∀ (l : Ledger) (before after : List Ledger.Op), ∃ restored,
      Ledger.codec.decode (Ledger.codec.encode (l.run before)) = .ok restored ∧
        l.history (before ++ after) = l.history before ++ restored.history after ∧
          l.run (before ++ after) = restored.run after := by
  refine ⟨?_, fun s hs => (Registry.Stats.codec_restores hs).decode_encode, ?_, ?_, ?_, ?_⟩
  · exact ⟨fun t => t.codec_restores.decode_encode, fun u => u.codec_restores.decode_encode,
      fun s => s.codec_restores.decode_encode, fun q => q.codec_restores.decode_encode,
      fun r => r.codec_restores.decode_encode, fun r => r.codec_restores.decode_encode,
      fun d => d.codec_restores.decode_encode, fun id => id.codec_restores.decode_encode,
      fun p => p.codec_restores.decode_encode, fun o => o.codec_restores.decode_encode⟩
  · intro r
    exact ⟨r.toRecord_restores.decode_encode, Ring.ofRecord_eq_ok_iff.2 rfl⟩
  · exact fun r => r.codec_restores.decode_encode
  · exact fun l => l.codec_restores.decode_encode
  · intro l before after
    exact ⟨l.run before, (l.run before).codec_restores.decode_encode, l.history_append before after,
      l.run_append before after⟩

end ConstantProduct
