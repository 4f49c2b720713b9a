import PostfixSheet.Number.Rounding

/-! The four operations on binary64 numbers: the exact result, rounded once.
Infinite operands and zeros follow the usual limits; an operation without a
limit gives the value that is not a number. The sign of a product or quotient
is the exclusive or of the operands' signs, also for zeros. A sum of exactly
zero is negative only if both terms are. -/
namespace PostfixSheet.Binary64

def neg : Binary64 → Binary64
  | .nan => .nan
  | .infinite negative => .infinite (!negative)
  | .finite negative code => .finite (!negative) code

def add : Binary64 → Binary64 → Binary64
  | .nan, _ => .nan
  | _, .nan => .nan
  | .infinite left, .infinite right => if left = right then .infinite left else .nan
  | .infinite left, .finite _ _ => .infinite left
  | .finite _ _, .infinite right => .infinite right
  | .finite left a, .finite right b =>
      let sum := signed left (units a) + signed right (units b)
      if sum = 0 then zero (left && right) else round (decide (sum < 0)) sum.natAbs 1

def sub (left right : Binary64) : Binary64 := add left (neg right)

def mul : Binary64 → Binary64 → Binary64
  | .nan, _ => .nan
  | _, .nan => .nan
  | .infinite left, .infinite right => .infinite (left ^^ right)
  | .infinite left, .finite right b =>
      if b.val = 0 then .nan else .infinite (left ^^ right)
  | .finite left a, .infinite right =>
      if a.val = 0 then .nan else .infinite (left ^^ right)
  | .finite left a, .finite right b => round (left ^^ right) (units a * units b) oneUnits

def div : Binary64 → Binary64 → Binary64
  | .nan, _ => .nan
  | _, .nan => .nan
  | .infinite _, .infinite _ => .nan
  | .infinite left, .finite right _ => .infinite (left ^^ right)
  | .finite left _, .infinite right => zero (left ^^ right)
  | .finite left a, .finite right b =>
      if b.val = 0 then if a.val = 0 then .nan else .infinite (left ^^ right)
      else round (left ^^ right) (units a * oneUnits) (units b)

instance : Neg Binary64 := ⟨neg⟩
instance : Add Binary64 := ⟨add⟩
instance : Sub Binary64 := ⟨sub⟩
instance : Mul Binary64 := ⟨mul⟩
instance : Div Binary64 := ⟨div⟩

end PostfixSheet.Binary64
