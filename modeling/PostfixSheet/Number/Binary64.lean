/-! Binary floating-point numbers of sixty-four bits. A finite number is a sign
and the code of a magnitude; the codes count the magnitudes upwards from zero,
so the code is also the lower part of the number's encoding. A magnitude is a
whole number of units of 2^-1074, the least positive magnitude. There is one
value that is not a number; its encodings are not told apart. -/
namespace PostfixSheet

namespace Binary64

-- Powers are those of the natural numbers themselves, whatever structures are in scope.
attribute [local instance (high)] instPowNat

/-- Magnitudes with one exponent. -/
def fractionCount : Nat := 2 ^ (52 : Nat)

/-- Finite magnitudes: the exponent 2047 is kept for what is not finite. -/
def magnitudeCount : Nat := 2047 * fractionCount

/-- The number one in units of 2^-1074. -/
def oneUnits : Nat := 2 ^ (1074 : Nat)

def signPlace : Nat := 2 ^ (63 : Nat)

/-- The magnitude with a given code, in units of 2^-1074. Exponent zero has no
leading bit of its own. -/
def units (code : Nat) : Nat :=
  let exponent := code / fractionCount
  let fraction := code % fractionCount
  if exponent = 0 then fraction else (fractionCount + fraction) * 2 ^ (exponent - 1)

end Binary64

inductive Binary64 where
  | nan
  | infinite (negative : Bool)
  | finite (negative : Bool) (code : Fin Binary64.magnitudeCount)
deriving DecidableEq

namespace Binary64

def zero (negative : Bool) : Binary64 := .finite negative ⟨0, by decide⟩

def isFinite : Binary64 → Bool
  | .finite _ _ => true
  | _ => false

def isZero : Binary64 → Bool
  | .finite _ code => code.val == 0
  | _ => false

def signed (negative : Bool) (magnitude : Nat) : Int := if negative then -magnitude else magnitude

def ofBits (bits : UInt64) : Binary64 :=
  let negative := decide (signPlace ≤ bits.toNat)
  let code := bits.toNat % signPlace
  if h : code < magnitudeCount then .finite negative ⟨code, h⟩
  else if code = magnitudeCount then .infinite negative
  else .nan

/-- The encoding; for the value that is not a number, one of its encodings. -/
def toBits : Binary64 → UInt64
  | .nan => UInt64.ofNat (magnitudeCount + fractionCount / 2)
  | .infinite negative => UInt64.ofNat ((if negative then signPlace else 0) + magnitudeCount)
  | .finite negative code => UInt64.ofNat ((if negative then signPlace else 0) + code)

end Binary64

end PostfixSheet
