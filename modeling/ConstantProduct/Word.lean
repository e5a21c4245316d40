import ConstantProduct.Error

namespace ConstantProduct

namespace Amount

def max : Amount := 0xFFFFFFFFFFFFFFFF

def wide (a : Amount) : Wide := a.toBitVec.setWidth 128

def add? (a b : Amount) : Option Amount :=
  if a.toNat + b.toNat < UInt64.size then some (a + b) else none

def sub? (a b : Amount) : Option Amount := if b ≤ a then some (a - b) else none

def add (a b : Amount) : Result Amount :=
  match a.add? b with
  | some s => .ok s
  | none => .error (.fault .addition)

def sub (a b : Amount) : Result Amount :=
  match a.sub? b with
  | some d => .ok d
  | none => .error (.fault .subtraction)

@[simp] theorem toNat_wide (a : Amount) : (wide a).toNat = a.toNat := by
  have h := a.toNat_lt
  simp only [wide, BitVec.toNat_setWidth, UInt64.toNat_toBitVec]
  omega

theorem toNat_of_add? {a b s : Amount} (h : add? a b = some s) : s.toNat = a.toNat + b.toNat := by
  unfold add? at h
  split at h
  · rename_i lt; cases h; rw [UInt64.toNat_add]; exact Nat.mod_eq_of_lt lt
  · cases h

theorem toNat_of_sub? {a b d : Amount} (h : sub? a b = some d) :
    b.toNat ≤ a.toNat ∧ d.toNat = a.toNat - b.toNat := by
  unfold sub? at h
  split at h
  · rename_i le; cases h; exact ⟨le, UInt64.toNat_sub_of_le _ _ le⟩
  · cases h

end Amount

namespace Wide

abbrev size : Nat := 0x100000000000000000000000000000000

def add (a b : Wide) : Result Wide :=
  if a.toNat + b.toNat < size then .ok (a + b) else .error (.fault .addition)

def amount? (a : Wide) : Option Amount :=
  if a.toNat < UInt64.size then some (UInt64.ofNat a.toNat) else none

/-- The word as an amount, where `calculation` must have produced one. -/
def amount (a : Wide) (calculation : Calculation) : Result Amount :=
  match amount? a with
  | some n => .ok n
  | none => .error (.overflow calculation)

/-- The word as an amount, where nothing provides for one that is too large. -/
def asAmount (a : Wide) : Result Amount :=
  match amount? a with
  | some n => .ok n
  | none => .error (.fault .narrowing)

end Wide

end ConstantProduct
