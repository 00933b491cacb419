import RuleWatch.Json.Number
import RuleWatch.Json.Skip
import RuleWatch.Json.Text

/-!
Reading the members of lists and objects one by one, and texts where nothing
else may stand.
-/

namespace RuleWatch.Json

def readWord : List UInt8 → List UInt8 → Except Fault (List UInt8)
  | [], s => .ok s
  | _ :: _, [] => .error (.before .endOfValue [])
  | c :: left, b :: rest =>
      if b = c then readWord left rest else .error (.before .expectedWord rest)

/-- Reads what stands where something else should. Lists and objects are not
looked into. -/
def readFound : List UInt8 → Except Fault (Found × List UInt8)
  | [] => .error (.before .endOfValue [])
  | b :: rest =>
      if b = byte 'n' then
        return (.null, ← readWord [byte 'u', byte 'l', byte 'l'] rest)
      else if b = byte 't' then
        return (.boolean true, ← readWord [byte 'r', byte 'u', byte 'e'] rest)
      else if b = byte 'f' then
        return (.boolean false,
          ← readWord [byte 'a', byte 'l', byte 's', byte 'e'] rest)
      else if b = byte '-' then readNumber true rest
      else if isDigit b then readNumber false (b :: rest)
      else if b = byte '"' then do
        let (text, rest) ← readString rest
        return (.string text, rest)
      else if b = byte '[' then .ok (.sequence, b :: rest)
      else if b = byte '\x7b' then .ok (.map, b :: rest)
      else .error (.before .expectedValue rest)

def mismatch (expected : String) (s : List UInt8) : Fault :=
  match readFound s with
  | .error f => f
  | .ok (found, rest) => .before (.mismatch found expected) rest

def readText (s : List UInt8) : Except Fault (String × List UInt8) :=
  match skipBlanks s with
  | [] => .error (.before .endOfValue [])
  | b :: rest =>
      if b = byte '"' then readString rest
      else .error (mismatch "a string" (b :: rest))

/-- Goes on to the next element of a list, or behind its end. -/
def nextElement (isFirst : Bool) (s : List UInt8) :
    Except Fault (Bool × List UInt8) :=
  match skipBlanks s with
  | [] => .error (.before .endOfList [])
  | b :: rest =>
      if b = byte ']' then .ok (false, rest)
      else if isFirst then .ok (true, b :: rest)
      else if b = byte ',' then
        match skipBlanks rest with
        | [] => .error (.before .endOfValue [])
        | c :: rest =>
            if c = byte ']' then .error (.before .trailingComma rest)
            else .ok (true, c :: rest)
      else .error (.before .expectedListCommaOrEnd rest)

/-- Goes on behind the quote that opens the next key of an object, or behind its
end. -/
def nextKey (isFirst : Bool) (s : List UInt8) :
    Except Fault (Bool × List UInt8) :=
  match skipBlanks s with
  | [] => .error (.before .endOfObject [])
  | b :: rest =>
      if b = byte '\x7d' then .ok (false, rest)
      else if isFirst then
        if b = byte '"' then .ok (true, rest)
        else .error (.before .keyMustBeString rest)
      else if b = byte ',' then
        match skipBlanks rest with
        | [] => .error (.before .endOfValue [])
        | c :: rest =>
            if c = byte '"' then .ok (true, rest)
            else if c = byte '\x7d' then .error (.before .trailingComma rest)
            else .error (.before .keyMustBeString rest)
      else .error (.before .expectedObjectCommaOrEnd rest)

def readColon (s : List UInt8) : Except Fault (List UInt8) :=
  match skipBlanks s with
  | [] => .error (.before .endOfObject [])
  | b :: rest => if b = byte ':' then .ok rest
    else .error (.before .expectedColon rest)

/-- Reads the end of a list behind as many elements as it may have. -/
def readListEnd (s : List UInt8) : Except Fault (List UInt8) :=
  match skipBlanks s with
  | [] => .error (.before .endOfList [])
  | b :: rest =>
      if b = byte ']' then .ok rest
      else if b = byte ',' then
        match skipBlanks rest with
        | [] => .error (.before .trailingCharacters [])
        | c :: rest =>
            .error (.before (if c = byte ']' then .trailingComma
              else .trailingCharacters) rest)
      else .error (.before .trailingCharacters rest)

def readEnd (s : List UInt8) : Except Fault Unit :=
  match skipBlanks s with
  | [] => .ok ()
  | _ :: rest => .error (.before .trailingCharacters rest)

def readDocument {α : Type} (read : List UInt8 → Except Fault (α × List UInt8))
    (text : List UInt8) : Except Refusal α :=
  match read text with
  | .error f => .error (.ofFault text f)
  | .ok (value, rest) =>
      match readEnd rest with
      | .error f => .error (.ofFault text f)
      | .ok () => .ok value

theorem skipBlanks_length (s : List UInt8) : (skipBlanks s).length ≤ s.length :=
  (List.dropWhile_suffix _).length_le

theorem readText_length {s r : List UInt8} {t : String}
    (h : readText s = .ok (t, r)) :
    r.length < s.length := by
  have hb := skipBlanks_length s
  unfold readText at h
  split at h
  · cases h
  · rename_i hs
    rw [hs, List.length_cons] at hb
    split at h
    · have := readString_length h
      omega
    · cases h

theorem nextElement_length {isFirst more : Bool} {s r : List UInt8}
    (h : nextElement isFirst s = .ok (more, r)) : r.length ≤ s.length := by
  have hb := skipBlanks_length s
  unfold nextElement at h
  split at h
  · cases h
  · rename_i rest hs
    rw [hs, List.length_cons] at hb
    split at h
    · cases h
      omega
    · split at h
      · cases h
        simpa using hb
      · split at h
        · have hc := skipBlanks_length rest
          split at h
          · cases h
          · rename_i hr
            rw [hr, List.length_cons] at hc
            split at h
            · cases h
            · cases h
              simp only [List.length_cons]
              omega
        · cases h

theorem nextKey_length {isFirst more : Bool} {s r : List UInt8}
    (h : nextKey isFirst s = .ok (more, r)) : r.length < s.length := by
  have hb := skipBlanks_length s
  unfold nextKey at h
  split at h
  · cases h
  · rename_i rest hs
    rw [hs, List.length_cons] at hb
    split at h
    · cases h
      omega
    · split at h
      · split at h
        · cases h
          omega
        · cases h
      · split at h
        · have hc := skipBlanks_length rest
          split at h
          · cases h
          · rename_i hr
            rw [hr, List.length_cons] at hc
            split at h
            · cases h
              omega
            · split at h
              · cases h
              · cases h
        · cases h

theorem readColon_length {s r : List UInt8} (h : readColon s = .ok r) :
    r.length < s.length := by
  have hb := skipBlanks_length s
  unfold readColon at h
  split at h
  · cases h
  · rename_i hs
    rw [hs, List.length_cons] at hb
    split at h
    · cases h
      omega
    · cases h

theorem readListEnd_length {s r : List UInt8} (h : readListEnd s = .ok r) :
    r.length < s.length := by
  have hb := skipBlanks_length s
  unfold readListEnd at h
  split at h
  · cases h
  · rename_i hs
    rw [hs, List.length_cons] at hb
    split at h
    · cases h
      omega
    · split at h
      · split at h
        · cases h
        · cases h
      · cases h

end RuleWatch.Json
