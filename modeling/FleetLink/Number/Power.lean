/-! Powers of two and of ten, by which binary and decimal numbers are scaled. -/

namespace FleetLink.Number

def twoTo (exponent : Nat) : Nat := Nat.pow 2 exponent
def tenTo (exponent : Nat) : Nat := Nat.pow 10 exponent

theorem twoTo_pos (exponent : Nat) : 0 < twoTo exponent := Nat.pow_pos (by decide)
theorem tenTo_pos (exponent : Nat) : 0 < tenTo exponent := Nat.pow_pos (by decide)

theorem twoTo_add (m n : Nat) : twoTo (m + n) = twoTo m * twoTo n := Nat.pow_add ..

end FleetLink.Number
