import RuleWatch.Json.Byte
import RuleWatch.Json.Fault
import RuleWatch.Text.Utf8

/-!
Strings of a JSON text. A string is read piece by piece, where a piece is a byte
that stands for itself or a whole escape; a pair of escaped surrogates is one
piece.
-/

namespace RuleWatch.Json

open Text

/-- What stands next in a string. -/
inductive Piece
  | close
  | bytes (bs : List UInt8)
  deriving DecidableEq, Repr

def shortEscape? (b : UInt8) : Option UInt8 :=
  if b = byte '"' then some b
  else if b = byte '\\' then some b
  else if b = byte '/' then some b
  else if b = byte 'b' then some 8
  else if b = byte 'f' then some 12
  else if b = byte 'n' then some 10
  else if b = byte 'r' then some 13
  else if b = byte 't' then some 9
  else none

def isHighSurrogate (n : Nat) : Bool := 0xD800 ≤ n && n < 0xDC00

def isLowSurrogate (n : Nat) : Bool := 0xDC00 ≤ n && n < 0xE000

def scalarBytes (n : Nat) : List UInt8 := String.utf8EncodeChar (Char.ofNat n)

def pairValue (high low : Nat) : Nat :=
  (high - 0xD800) * 0x400 + (low - 0xDC00) + 0x10000

def readHex : List UInt8 → Except Fault (Nat × List UInt8)
  | a :: b :: c :: d :: rest =>
      match hexNumber? a b c d with
      | some n => .ok (n, rest)
      | none => .error (.before .invalidEscape rest)
  | _ => .error (.before .endOfString [])

def readLow (high : Nat) : List UInt8 → Except Fault (Piece × List UInt8)
  | [] => .error (.before .endOfString [])
  | b :: rest =>
      if b ≠ byte '\\' then .error (.before .endOfHexEscape rest)
      else match rest with
        | [] => .error (.before .endOfString [])
        | u :: rest =>
            if u ≠ byte 'u' then .error (.before .endOfHexEscape rest)
            else match readHex rest with
              | .error f => .error f
              | .ok (low, rest) =>
                  if isLowSurrogate low then
                    .ok (.bytes (scalarBytes (pairValue high low)), rest)
                  else .error (.before .loneSurrogate rest)

/-- Reads an escape behind its backslash. -/
def readEscape : List UInt8 → Except Fault (Piece × List UInt8)
  | [] => .error (.before .endOfString [])
  | b :: rest =>
      if b = byte 'u' then
        match readHex rest with
        | .error f => .error f
        | .ok (n, rest) =>
            if isLowSurrogate n then .error (.before .loneSurrogate rest)
            else if isHighSurrogate n then readLow n rest
            else .ok (.bytes (scalarBytes n), rest)
      else match shortEscape? b with
        | some c => .ok (.bytes [c], rest)
        | none => .error (.before .invalidEscape rest)

def readPiece : List UInt8 → Except Fault (Piece × List UInt8)
  | [] => .error (.before .endOfString [])
  | b :: rest =>
      if b = byte '"' then .ok (.close, rest)
      else if b = byte '\\' then readEscape rest
      else if b < 32 then .error (.before .controlCharacter rest)
      else .ok (.bytes [b], rest)

theorem readHex_length {s r : List UInt8} {n : Nat}
    (h : readHex s = .ok (n, r)) :
    r.length < s.length := by
  unfold readHex at h
  split at h
  · split at h
    · cases h
      simp only [List.length_cons]
      omega
    · cases h
  · cases h

theorem readLow_length {high : Nat} {s r : List UInt8} {p : Piece}
    (h : readLow high s = .ok (p, r)) : r.length < s.length := by
  unfold readLow at h
  split at h
  · cases h
  · split at h
    · cases h
    · split at h
      · cases h
      · split at h
        · cases h
        · split at h
          · cases h
          · rename_i hx
            have := readHex_length hx
            split at h
            · cases h
              simp only [List.length_cons]
              omega
            · cases h

theorem readEscape_length {s r : List UInt8} {p : Piece}
    (h : readEscape s = .ok (p, r)) :
    r.length < s.length := by
  unfold readEscape at h
  split at h
  · cases h
  · split at h
    · split at h
      · cases h
      · rename_i hx
        have := readHex_length hx
        split at h
        · cases h
        · split at h
          · have := readLow_length h
            simp only [List.length_cons]
            omega
          · cases h
            simp only [List.length_cons]
            omega
    · split at h
      · cases h
        simp
      · cases h

/-- Every piece takes at least one byte. -/
theorem readPiece_length {s r : List UInt8} {p : Piece}
    (h : readPiece s = .ok (p, r)) :
    r.length < s.length := by
  unfold readPiece at h
  split at h
  · cases h
  · split at h
    · cases h
      simp
    · split at h
      · have := readEscape_length h
        simp only [List.length_cons]
        omega
      · split at h
        · cases h
        · cases h
          simp

/-- Reads the pieces up to the closing quote. `done` holds the bytes read
before, the last one first. -/
def readPieces (done : List UInt8) (s : List UInt8) :
    Except Fault (List UInt8 × List UInt8) :=
  match h : readPiece s with
  | .error f => .error f
  | .ok (.close, r) => .ok (done.reverse, r)
  | .ok (.bytes bs, r) =>
      have := readPiece_length h
      readPieces (bs.reverse ++ done) r
termination_by s.length

/-- The place in a string behind the pieces for `n` bytes. -/
def pieceAt (n : Nat) (s : List UInt8) : List UInt8 :=
  if n = 0 then s
  else match h : readPiece s with
    | .ok (.bytes bs, r) =>
        have := readPiece_length h
        pieceAt (n - bs.length) r
    | _ => s
termination_by s.length

/-- Reads a string behind its opening quote. A string that is no text is refused
at the first byte that belongs to no character. -/
def readString (s : List UInt8) : Except Fault (String × List UInt8) :=
  match readPieces [] s with
  | .error f => .error f
  | .ok (bs, r) =>
      match decode? bs with
      | some text => .ok (text, r)
      | none => .error (.at .invalidCodePoint (pieceAt (validLength bs) s))

theorem readPieces_length {done s r bs : List UInt8}
    (h : readPieces done s = .ok (bs, r)) :
    r.length < s.length := by
  fun_induction readPieces done s with
  | case1 => cases h
  | case2 done s r' hp =>
      cases h
      exact readPiece_length hp
  | case3 done s bs' r' hp hlt ih =>
      have := ih h
      omega

theorem readString_length {s r : List UInt8} {text : String}
    (h : readString s = .ok (text, r)) :
    r.length < s.length := by
  unfold readString at h
  split at h
  · cases h
  · rename_i hp
    split at h
    · cases h
      exact readPieces_length hp
    · cases h

def hexForm (n : Nat) : List Char :=
  let ds := Nat.toDigits 16 n
  List.replicate (4 - ds.length) '0' ++ ds

/-- The spelling of a character: only the quote, the backslash and controls are
escaped. -/
def spell (c : Char) : List Char :=
  if c = '"' then ['\\', '"']
  else if c = '\\' then ['\\', '\\']
  else if c = '\x08' then ['\\', 'b']
  else if c = '\x0c' then ['\\', 'f']
  else if c = '\n' then ['\\', 'n']
  else if c = '\x0d' then ['\\', 'r']
  else if c = '\t' then ['\\', 't']
  else if c.toNat < 32 then '\\' :: 'u' :: hexForm c.toNat
  else [c]

def written (s : String) : List Char := '"' :: (s.toList.flatMap spell ++ ['"'])

end RuleWatch.Json
