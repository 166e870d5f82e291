/-!
# Powers of two and of ten

The powers by which binary and decimal digits are moved.
-/

namespace SqlRender

/-- Two to the power of `n`. -/
def twoTo (n : Nat) : Nat :=
  Nat.pow 2 n

/-- Ten to the power of `n`. -/
def tenTo (n : Nat) : Nat :=
  Nat.pow 10 n

end SqlRender
