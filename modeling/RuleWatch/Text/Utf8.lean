/-!
Texts as bytes. A text is written byte by byte as the UTF-8 form of its
characters, and bytes are a text when they are exactly such a form.
-/

namespace RuleWatch.Text

def encode (s : String) : List UInt8 := s.toList.flatMap String.utf8EncodeChar

def decode? (bytes : List UInt8) : Option String :=
  String.fromUTF8? bytes.toByteArray

/-- The scalar value whose UTF-8 form starts at `i`, with the length of the
form. -/
def scalarAt (b : ByteArray) (i : Nat) : Option (Nat × Nat) :=
  (b.utf8DecodeChar? i).map fun c => (c.toNat, c.utf8Size)

/-- Where the characters end that are read from `i` on, at most so many. -/
def endOfScalars (b : ByteArray) (i : Nat) : Nat → Nat
  | 0 => i
  | k + 1 =>
      match scalarAt b i with
      | some (_, n) => endOfScalars b (i + n) k
      | none => i

/-- The number of bytes in front of the first that belongs to no character. -/
def validLength (bytes : List UInt8) : Nat :=
  endOfScalars bytes.toByteArray 0 bytes.length

/-- Where the last encoded character before `i` would have to start: at the
nearest byte that is no continuation byte, at most three bytes further back than
`i - 1`. -/
def lastStart (b : ByteArray) (i : Nat) : Nat → Nat
  | 0 => i - 1
  | k + 1 =>
      let start := lastStart b i k
      if start = 0 ∨ start + 4 ≤ i ∨ (b.get! start) &&& 0xC0 ≠ 0x80 then start
      else start - 1

/-- The scalar value read at the last possible start before `i`, as long as its
form does not run past `i`. Bytes left over between its end and `i` do not
matter. -/
def scalarBefore (b : ByteArray) (i : Nat) : Option Nat :=
  if i = 0 then none
  else match scalarAt b (lastStart b i 3) with
    | some (c, n) => if lastStart b i 3 + n ≤ i then some c else none
    | none => none

end RuleWatch.Text
