namespace ConstantProduct

inductive Token where
  | zero
  | one
  deriving DecidableEq, Repr

namespace Token

def other : Token → Token
  | zero => one
  | one => zero

@[simp] theorem other_other (t : Token) : t.other.other = t := by cases t <;> rfl

@[simp] theorem other_ne (t : Token) : t.other ≠ t := by cases t <;> decide

end Token

@[ext] structure PerToken (α : Type) where
  zero : α
  one : α
  deriving DecidableEq, Repr, Inhabited

namespace PerToken

variable {α β : Type}

def get (p : PerToken α) : Token → α
  | .zero => p.zero
  | .one => p.one

def set (p : PerToken α) (t : Token) (a : α) : PerToken α :=
  match t with
  | .zero => { p with zero := a }
  | .one => { p with one := a }

def both (a : α) : PerToken α := ⟨a, a⟩

def map (f : α → β) (p : PerToken α) : PerToken β := ⟨f p.zero, f p.one⟩

def flip (p : PerToken α) : PerToken α := ⟨p.one, p.zero⟩

@[simp] theorem get_set_self (p : PerToken α) (t : Token) (a : α) : (p.set t a).get t = a := by
  cases t <;> rfl

end PerToken

inductive Direction where
  /-- Token zero is sold, token one received. -/
  | zeroForOne
  /-- Token one is sold, token zero received. -/
  | oneForZero
  deriving DecidableEq, Repr

namespace Direction

def sold : Direction → Token
  | zeroForOne => .zero
  | oneForZero => .one

def bought (d : Direction) : Token := d.sold.other

def opposite : Direction → Direction
  | zeroForOne => oneForZero
  | oneForZero => zeroForOne

/-- The direction of a one-byte instruction; no byte but 0 and 1 names one. -/
def ofByte? (b : UInt8) : Option Direction :=
  if b = 0 then some zeroForOne else if b = 1 then some oneForZero else none

def name : Direction → String
  | zeroForOne => "ZeroForOne"
  | oneForZero => "OneForZero"

@[simp] theorem sold_opposite (d : Direction) : d.opposite.sold = d.bought := by cases d <;> rfl

@[simp] theorem sold_ne_bought (d : Direction) : d.sold ≠ d.bought := by cases d <;> decide

end Direction

end ConstantProduct
