/-!
# Method flags

A method carries a word of sixteen flags. The lowest three tell who may call it, and renaming
tools are free to change them; the others belong to its signature.
-/

namespace Concord

/-- The flags of a method. -/
structure MethodFlags where
  bits : UInt16
deriving Repr, DecidableEq, Inhabited

namespace MethodFlags

/-- No flag is set. -/
def none : MethodFlags := ⟨0⟩

/-- The flags that tell who may call a method. -/
def accessMask : UInt16 := 0x0007

/-- Only the flags that tell who may call the method. -/
def access (a : MethodFlags) : MethodFlags := ⟨a.bits &&& accessMask⟩

/-- All flags but those that tell who may call the method. -/
def withoutAccess (a : MethodFlags) : MethodFlags := ⟨a.bits &&& ~~~accessMask⟩

/-- The flags that are set in either. -/
def union (a b : MethodFlags) : MethodFlags := ⟨a.bits ||| b.bits⟩

/-- Every flag of `b` is set in `a`. -/
def contains (a b : MethodFlags) : Bool := a.bits &&& b.bits == b.bits

/-- Four hexadecimal digits. -/
def render (a : MethodFlags) : String :=
  let digits := Nat.toDigits 16 a.bits.toNat
  String.ofList ('0' :: 'x' :: List.replicate (4 - digits.length) '0' ++ digits)

end MethodFlags

end Concord
