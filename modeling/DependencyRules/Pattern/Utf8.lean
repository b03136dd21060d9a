import DependencyRules.Unicode.CharSet

/-!
# Sets of characters as bytes

The UTF-8 forms of the characters of a set, as sequences of byte ranges: a sequence stands for all
the texts that take one byte out of each of its ranges.
-/

namespace DependencyRules

/-- Ranges of bytes one after the other, both ends included. -/
abbrev ByteRanges := List (Nat × Nat)

namespace CharSet

/-- The bytes of the UTF-8 form of a code point. -/
def utf8Bytes (code : Nat) : List Nat :=
  if code ≤ 0x7F then [code]
  else if code ≤ 0x7FF then [0xC0 + code / 64, 0x80 + code % 64]
  else if code ≤ 0xFFFF then [0xE0 + code / 4096, 0x80 + code / 64 % 64, 0x80 + code % 64]
  else [0xF0 + code / 262144, 0x80 + code / 4096 % 64, 0x80 + code / 64 % 64, 0x80 + code % 64]

/-- Divides a range where the number of bytes changes or where a byte range would not be whole.
There is one cut at the surrogates, three between numbers of bytes and two for each byte that
follows the first, so ten levels are enough. -/
def utf8Pieces : Nat → Nat × Nat → List (Nat × Nat)
  | 0, r => [r]
  | fuel + 1, (low, high) =>
      if high < low then []
      else if low < 0xE000 ∧ 0xD7FF < high then
        utf8Pieces fuel (low, 0xD7FF) ++ utf8Pieces fuel (0xE000, high)
      else
        match [0x7F, 0x7FF, 0xFFFF].find? fun limit => low ≤ limit ∧ limit < high with
        | some limit => utf8Pieces fuel (low, limit) ++ utf8Pieces fuel (limit + 1, high)
        | none =>
            if high ≤ 0x7F then [(low, high)]
            else
              match [64, 4096, 262144].find? fun block =>
                low / block ≠ high / block ∧ (low % block ≠ 0 ∨ high % block ≠ block - 1) with
              | some block =>
                  if low % block ≠ 0 then
                    let cut := low - low % block + block
                    utf8Pieces fuel (low, cut - 1) ++ utf8Pieces fuel (cut, high)
                  else
                    let cut := high - high % block
                    utf8Pieces fuel (low, cut - 1) ++ utf8Pieces fuel (cut, high)
              | none => [(low, high)]

/-- The byte ranges of a set: one sequence for each piece, in ascending order. -/
def utf8Sequences (set : CharSet) : List ByteRanges :=
  (set.ranges.flatMap (utf8Pieces 10)).map fun r => (utf8Bytes r.1).zip (utf8Bytes r.2)

end CharSet

end DependencyRules
