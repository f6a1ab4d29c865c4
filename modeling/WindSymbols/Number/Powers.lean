/-!
Powers of two and of ten.
-/

namespace WindSymbols

def twoTo (k : Nat) : Nat := Nat.pow 2 k

def tenTo (k : Nat) : Nat := Nat.pow 10 k

theorem twoTo_pos (k : Nat) : 0 < twoTo k := Nat.two_pow_pos k

theorem twoTo_add (a b : Nat) : twoTo (a + b) = twoTo a * twoTo b := Nat.pow_add 2 a b

theorem twoTo_dvd {a b : Nat} (h : a ≤ b) : twoTo a ∣ twoTo b := Nat.pow_dvd_pow 2 h

theorem twoTo_le {a b : Nat} (h : a ≤ b) : twoTo a ≤ twoTo b := Nat.pow_le_pow_right (by omega) h

theorem twoTo_lt {a b : Nat} (h : a < b) : twoTo a < twoTo b := Nat.pow_lt_pow_right (by omega) h

theorem log2_lt_iff {n k : Nat} (h : n ≠ 0) : n.log2 < k ↔ n < twoTo k := Nat.log2_lt h

theorem lt_twoTo_log2 (n : Nat) : n < twoTo (n.log2 + 1) := Nat.lt_log2_self

theorem tenTo_pos (k : Nat) : 0 < tenTo k := Nat.pow_pos (by omega)

end WindSymbols
