/-!
# Text/Number — words written in decimal and hexadecimal

Addresses, MSR numbers and VMCS encodings are written in lower-case hexadecimal without padding
(`hex`, with the `0x` marker); counters and processor indices are written in decimal. `readNumber`
reads both.
-/

namespace VtxMonitor.Text

/-- The lower-case hexadecimal digits of a number, without leading zeros. -/
def hexDigits (n : Nat) : String := String.ofList (Nat.toDigits 16 n)

/-- The decimal digits of a number. -/
def decimal (n : Nat) : String := String.ofList (Nat.toDigits 10 n)

/-- A word as it is written in messages: `0x` and its hexadecimal digits. -/
def hex {w : Nat} (x : BitVec w) : String := "0x" ++ hexDigits x.toNat

/-- The value of a digit of either base; other characters count as zero. -/
def digitValue (c : Char) : Nat :=
  if '0' ≤ c ∧ c ≤ '9' then c.toNat - '0'.toNat
  else if 'a' ≤ c ∧ c ≤ 'f' then c.toNat - 'a'.toNat + 10
  else if 'A' ≤ c ∧ c ≤ 'F' then c.toNat - 'A'.toNat + 10
  else 0

/-- The number that digits of a base stand for. -/
def ofDigits (base : Nat) (digits : List Char) : Nat :=
  digits.foldl (fun n c => base * n + digitValue c) 0

/-- Reads a number in hexadecimal behind the `0x` marker, or else in decimal. -/
def readNumber (s : String) : Nat :=
  match s.toList with
  | '0' :: 'x' :: digits => ofDigits 16 digits
  | digits => ofDigits 10 digits

end VtxMonitor.Text
