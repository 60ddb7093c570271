/-
  Hexadecimal digits.

  * `hexDigits`: the digits in lower case; `mem_hexDigits_of_mem_hexPadded`: numbers are written
    with no other characters;
  * `bytesOfHex?_hexBytes`: octets are read back from their digits.
-/
import CompileCommands.Text.Hex
import CompileCommands.Text.Utf8
import Mathlib.Data.List.Basic

namespace CompileCommands.Text

/-- The hexadecimal digits in lower case. -/
def hexDigits : List Char := "0123456789abcdef".toList

theorem hexDigit_mod (n : Nat) : hexDigit (n % 16) = hexDigit n := by
  rw [hexDigit, hexDigit, Nat.mod_mod]

theorem hexDigit_mem (n : Nat) : hexDigit n ∈ hexDigits := by
  have hsmall : ∀ d < 16, hexDigit d ∈ hexDigits := by decide
  rw [← hexDigit_mod]
  exact hsmall _ (Nat.mod_lt n (by decide))

theorem hexValue?_hexDigit (n : Nat) : hexValue? (hexDigit n) = some (n % 16) := by
  have hsmall : ∀ d < 16, hexValue? (hexDigit d) = some d := by decide
  rw [← hexDigit_mod]
  exact hsmall _ (Nat.mod_lt n (by decide))

theorem hexBytes_cons (b : UInt8) (bytes : Bytes) :
    hexBytes (b :: bytes) = hexDigit (b.toNat / 16) :: hexDigit b.toNat :: hexBytes bytes := rfl

theorem mem_hexDigits_of_mem_hexPadded {c : Char} {width n : Nat} (h : c ∈ hexPadded width n) :
    c ∈ hexDigits := by
  induction width generalizing n with
  | zero => cases h
  | succ width ih =>
    rw [hexPadded, List.mem_append, List.mem_singleton] at h
    obtain h | rfl := h
    · exact ih h
    · exact hexDigit_mem n

theorem bytesOfHex?_hexBytes (bytes : Bytes) : bytesOfHex? (hexBytes bytes) = some bytes := by
  induction bytes with
  | nil => rfl
  | cons b bytes ih =>
    have hhigh : b.toNat / 16 % 16 = b.toNat / 16 :=
      Nat.mod_eq_of_lt (Nat.div_lt_of_lt_mul b.toNat_lt)
    rw [hexBytes_cons, bytesOfHex?, hexValue?_hexDigit, hexValue?_hexDigit, hhigh, ih]
    change some (UInt8.ofNat (b.toNat / 16 * 16 + b.toNat % 16) :: bytes) = some (b :: bytes)
    rw [Nat.div_add_mod', UInt8.ofNat_toNat]

theorem mem_hexDigits_of_mem_hexBytes {c : Char} {bytes : Bytes} (h : c ∈ hexBytes bytes) :
    c ∈ hexDigits := by
  obtain ⟨b, -, hc⟩ := List.mem_flatMap.1 h
  exact mem_hexDigits_of_mem_hexPadded hc

theorem dash_not_mem_hexBytes (bytes : Bytes) : '-' ∉ hexBytes bytes :=
  fun h => absurd (mem_hexDigits_of_mem_hexBytes h) (by decide)

theorem length_hexBytes (bytes : Bytes) : (hexBytes bytes).length = 2 * bytes.length := by
  induction bytes with
  | nil => rfl
  | cons b bytes ih =>
    rw [hexBytes_cons, List.length_cons, List.length_cons, ih, List.length_cons]
    omega

end CompileCommands.Text
