import Mathlib.Data.List.Basic

/-!
# Byte strings

The gateway handles text as `std::string`, a sequence of bytes without any encoding:
paths, header values and configuration texts may hold arbitrary bytes, `size()`
counts bytes and comparisons are bytewise.  The model does the same.
-/

namespace Kimchi

/-- A `std::string`. -/
abbrev Str := List UInt8

/-- A string literal of the source. -/
def str (s : String) : Str := s.toUTF8.data.toList

/-- ASCII lower case of one byte; bytes outside `A`–`Z` are unchanged. -/
def lowerByte (b : UInt8) : UInt8 := if 65 ≤ b ∧ b ≤ 90 then b + 32 else b

/-- ASCII lower case, the normal form under which HTTP header names are compared. -/
def lower (s : Str) : Str := s.map lowerByte

/-- `s.starts_with(p)`. -/
def startsWith (s p : Str) : Bool := p.isPrefixOf s

/-- `{:016x}`: sixteen hexadecimal digits, most significant first. -/
def hex16 (n : UInt64) : Str :=
  (List.range 16).map fun i =>
    let d := (n.toNat >>> (4 * (15 - i))) % 16
    if d < 10 then UInt8.ofNat (48 + d) else UInt8.ofNat (87 + d)

/-- A number with `k` hexadecimal digits is determined by them. -/
theorem eq_of_hexDigits_eq {m n k : Nat} (hm : m >>> (4 * k) = 0) (hn : n >>> (4 * k) = 0)
    (h : ∀ j < k, (m >>> (4 * j)) % 16 = (n >>> (4 * j)) % 16) : m = n := by
  induction k generalizing m n with
  | zero => exact hm.trans hn.symm
  | succ k ih =>
      have hshift (a j : Nat) : (a / 16) >>> (4 * j) = a >>> (4 * (j + 1)) := by
        rw [Nat.mul_succ, Nat.add_comm, Nat.shiftRight_add, Nat.shiftRight_eq_div_pow a 4]
      have hlast : m % 16 = n % 16 := h 0 (by omega)
      have hothers : m / 16 = n / 16 := by
        refine ih ((hshift m k).trans hm) ((hshift n k).trans hn) ?_
        intro j hj
        rw [hshift, hshift]
        exact h (j + 1) (by omega)
      omega

/-- The digits 0 to 15 are written differently. -/
theorem hexDigit_inj {a b : Nat} (ha : a < 16) (hb : b < 16)
    (h : (if a < 10 then UInt8.ofNat (48 + a) else UInt8.ofNat (87 + a)) =
      (if b < 10 then UInt8.ofNat (48 + b) else UInt8.ofNat (87 + b))) : a = b := by
  have hvalues := congrArg UInt8.toNat h
  split at hvalues <;> split at hvalues <;> simp only [UInt8.toNat_ofNat'] at hvalues <;> omega

theorem hex16_injective : Function.Injective hex16 := by
  intro m n h
  have hdigits := List.map_inj_left.mp h
  have hbound (a : UInt64) : a.toNat >>> (4 * 16) = 0 := by
    rw [Nat.shiftRight_eq_div_pow]
    exact Nat.div_eq_of_lt a.toNat_lt
  apply UInt64.toNat_inj.mp
  refine eq_of_hexDigits_eq (hbound m) (hbound n) ?_
  intro j hj
  have hdigit := hdigits (15 - j) (List.mem_range.mpr (by omega))
  have hplace : 15 - (15 - j) = j := by omega
  rw [hplace] at hdigit
  exact hexDigit_inj (Nat.mod_lt _ (by omega)) (Nat.mod_lt _ (by omega)) hdigit

end Kimchi
