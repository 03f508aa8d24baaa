/-
# Bytes

Octets as lists of `UInt8`, with the two written forms the library needs:

| Form | Rule |
|------|------|
| `littleEndian w n` | the `w` low octets of `n`, the least significant first |
| `toHex bs` | two lower-case hexadecimal digits per octet |

A number below `256 ^ w` is recovered from its `w` octets
(`littleEndian_injective`), so a length written in eight octets is unambiguous
below `2 ^ 64`.
-/

namespace ComponentHost

/-- A sequence of octets. -/
abbrev Bytes := List UInt8

namespace Bytes

/-- The `w` low octets of `n`, the least significant first. -/
def littleEndian : Nat → Nat → Bytes
  | 0, _ => []
  | w + 1, n => UInt8.ofNat n :: littleEndian w (n / 256)

@[simp] theorem length_littleEndian (w n : Nat) : (littleEndian w n).length = w := by
  induction w generalizing n with
  | zero => rfl
  | succ w ih => simp [littleEndian, ih]

/-- **Octets determine the number.**  Two numbers below `256 ^ w` with the same
`w` low octets are equal. -/
theorem littleEndian_injective {w m n : Nat} (hm : m < Nat.pow 256 w)
    (hn : n < Nat.pow 256 w) (h : littleEndian w m = littleEndian w n) : m = n := by
  induction w generalizing m n with
  | zero =>
    have hm : m < 1 := hm
    have hn : n < 1 := hn
    omega
  | succ w ih =>
    have step : Nat.pow 256 (w + 1) = Nat.pow 256 w * 256 := rfl
    simp only [littleEndian, List.cons.injEq] at h
    have low : m % 256 = n % 256 := by
      have := congrArg UInt8.toNat h.1
      simpa using this
    have high : m / 256 = n / 256 :=
      ih (by omega) (by omega) h.2
    omega

/-- The lower-case hexadecimal digit of a number below sixteen. -/
def hexDigit (n : Nat) : Char :=
  if n < 10 then Char.ofNat (0x30 + n) else Char.ofNat (0x57 + n)

/-- The value of a hexadecimal digit of either case. -/
def hexValue? (c : Char) : Option Nat :=
  if '0' ≤ c ∧ c ≤ '9' then some (c.toNat - 0x30)
  else if 'a' ≤ c ∧ c ≤ 'f' then some (c.toNat - 0x57)
  else if 'A' ≤ c ∧ c ≤ 'F' then some (c.toNat - 0x37)
  else none

/-- Two lower-case hexadecimal digits per octet. -/
def toHex (bs : Bytes) : String :=
  String.ofList (bs.flatMap fun b => [hexDigit (b.toNat / 16), hexDigit (b.toNat % 16)])

/-- The octets of a run of hexadecimal digit pairs. -/
def ofHexDigits? : List Char → Option Bytes
  | [] => some []
  | [_] => none
  | high :: low :: rest => do
    let h ← hexValue? high
    let l ← hexValue? low
    let bs ← ofHexDigits? rest
    return UInt8.ofNat (16 * h + l) :: bs

/-- Reads octets written in hexadecimal digits of either case. -/
def ofHex? (text : String) : Option Bytes := ofHexDigits? text.toList

example : toHex [0x00, 0x9f, 0xff] = "009fff" := by decide
example : ofHex? "009fFF" = some [0x00, 0x9f, 0xff] := by decide

end Bytes
end ComponentHost
