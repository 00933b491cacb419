import RuleWatch.Json.Read
import RuleWatch.Rule.Basic

/-!
Rule sets as JSON documents, the form in which they are published and stored. A
rule is an object with the fields `name`, `type` and `pattern`, or a list of
these three values in this order. The pattern may be missing, which makes it
empty; other fields are passed over, whatever they hold.
-/

namespace RuleWatch

open Json

namespace Rule

inductive Field
  | name
  | kind
  | pattern
  deriving DecidableEq, Repr

namespace Field

def key : Field → String
  | name => "name"
  | kind => "type"
  | pattern => "pattern"

/-- The field that a key names. -/
def ofKey? (key : String) : Option Field :=
  if key = "name" then some name
  else if key = "type" then some kind
  else if key = "pattern" then some pattern
  else none

end Field

/-- A rule of which some fields have been read. -/
structure Draft where
  name : Option String := none
  kind : Option String := none
  pattern : Option String := none
  deriving DecidableEq, Repr

namespace Draft

def get? (d : Draft) : Field → Option String
  | .name => d.name
  | .kind => d.kind
  | .pattern => d.pattern

def set (d : Draft) (value : String) : Field → Draft
  | .name => { d with name := some value }
  | .kind => { d with kind := some value }
  | .pattern => { d with pattern := some value }

def finish (d : Draft) : Except Cause Rule :=
  match d.name, d.kind with
  | some name, some kind => .ok ⟨name, kind, d.pattern.getD ""⟩
  | none, _ => .error (.missingField Field.name.key)
  | some _, none => .error (.missingField Field.kind.key)

end Draft

/-- A field that is there twice is reported behind its second key, or behind the
end of the object when that follows at once. -/
def duplicate (f : Field) (s : List UInt8) : Fault :=
  .before (.duplicateField f.key) <|
    match skipBlanks s with
    | [] => []
    | b :: rest => if b = byte '\x7d' then rest else b :: rest

def readMember (isFirst : Bool) (d : Draft) (s : List UInt8) :
    Except Fault (Option Draft × List UInt8) :=
  match nextKey isFirst s with
  | .error f => .error f
  | .ok (false, s) => .ok (none, s)
  | .ok (true, s) =>
      match readString s with
      | .error f => .error f
      | .ok (key, s) =>
          match Field.ofKey? key with
          | none =>
              match readColon s with
              | .error f => .error f
              | .ok s =>
                  match skipValue s with
                  | .error f => .error f
                  | .ok s => .ok (some d, s)
          | some field =>
              if (d.get? field).isSome then .error (duplicate field s)
              else match readColon s with
                | .error f => .error f
                | .ok s =>
                    match readText s with
                    | .error f => .error f
                    | .ok (value, s) => .ok (some (d.set value field), s)

theorem readMember_length {isFirst : Bool} {d : Draft} {s r : List UInt8}
    {d' : Option Draft} (h : readMember isFirst d s = .ok (d', r)) :
    r.length < s.length := by
  unfold readMember at h
  split at h
  · cases h
  · rename_i hk
    cases h
    exact nextKey_length hk
  · rename_i hk
    have := nextKey_length hk
    split at h
    · cases h
    · rename_i hs
      have := readString_length hs
      split at h
      · split at h
        · cases h
        · rename_i hc
          have := readColon_length hc
          split at h
          · cases h
          · rename_i hv
            have := skip_length hv
            cases h
            omega
      · split at h
        · cases h
        · split at h
          · cases h
          · rename_i hc
            have := readColon_length hc
            split at h
            · cases h
            · rename_i hv
              have := readText_length hv
              cases h
              omega

def readMembers (isFirst : Bool) (d : Draft) (s : List UInt8) :
    Except Fault (Rule × List UInt8) :=
  match h : readMember isFirst d s with
  | .error f => .error f
  | .ok (none, s) =>
      match d.finish with
      | .error cause => .error (.before cause s)
      | .ok rule => .ok (rule, s)
  | .ok (some d, r) =>
      have := readMember_length h
      readMembers false d r
termination_by s.length

theorem readMembers_length {isFirst : Bool} {d : Draft} {s r : List UInt8}
    {rule : Rule} (h : readMembers isFirst d s = .ok (rule, r)) :
    r.length < s.length := by
  fun_induction readMembers isFirst d s with
  | case1 => cases h
  | case2 => cases h
  | case3 isFirst d s s' hm rule hd =>
      cases h
      exact readMember_length hm
  | case4 isFirst d s d' r' hm hlt ih =>
      have := ih h
      omega

/-- What a list that stands for a rule has to be. -/
def shapeText : String := "struct RuleRecord with 3 elements"

def readSlot (index : Nat) (s : List UInt8) :
    Except Fault (Option String × List UInt8) :=
  match nextElement (index == 0) s with
  | .error f => .error f
  | .ok (false, s) => .ok (none, s)
  | .ok (true, s) =>
      match readText s with
      | .error f => .error f
      | .ok (value, s) => .ok (some value, s)

theorem readSlot_length {index : Nat} {s r : List UInt8} {v : Option String}
    (h : readSlot index s = .ok (v, r)) : r.length ≤ s.length := by
  unfold readSlot at h
  split at h
  · cases h
  · rename_i hn
    cases h
    exact nextElement_length hn
  · rename_i hn
    have := nextElement_length hn
    split at h
    · cases h
    · rename_i ht
      have := readText_length ht
      cases h
      omega

/-- Reads the list form of a rule behind its opening bracket. -/
def readSlots (s : List UInt8) : Except Fault (Rule × List UInt8) :=
  match readSlot 0 s with
  | .error f => .error f
  | .ok (none, s) => .error (.before (.tooShort 0 shapeText) s)
  | .ok (some name, s) =>
      match readSlot 1 s with
      | .error f => .error f
      | .ok (none, s) => .error (.before (.tooShort 1 shapeText) s)
      | .ok (some kind, s) =>
          match readSlot 2 s with
          | .error f => .error f
          | .ok (none, s) => .ok (⟨name, kind, ""⟩, s)
          | .ok (some pattern, s) =>
              match readListEnd s with
              | .error f => .error f
              | .ok s => .ok (⟨name, kind, pattern⟩, s)

theorem readSlots_length {s r : List UInt8} {rule : Rule}
    (h : readSlots s = .ok (rule, r)) :
    r.length ≤ s.length := by
  unfold readSlots at h
  split at h
  · cases h
  · cases h
  · rename_i h0
    have := readSlot_length h0
    split at h
    · cases h
    · cases h
    · rename_i h1
      have := readSlot_length h1
      split at h
      · cases h
      · rename_i h2
        have := readSlot_length h2
        cases h
        omega
      · rename_i h2
        have := readSlot_length h2
        split at h
        · cases h
        · rename_i he
          have := readListEnd_length he
          cases h
          omega

def read (s : List UInt8) : Except Fault (Rule × List UInt8) :=
  match skipBlanks s with
  | [] => .error (.before .endOfValue [])
  | b :: rest =>
      if b = byte '[' then readSlots rest
      else if b = byte '\x7b' then readMembers true {} rest
      else .error (mismatch "struct RuleRecord" (b :: rest))

theorem read_length {s r : List UInt8} {rule : Rule}
    (h : read s = .ok (rule, r)) :
    r.length < s.length := by
  have hb := skipBlanks_length s
  unfold read at h
  split at h
  · cases h
  · rename_i hs
    rw [hs, List.length_cons] at hb
    split at h
    · have := readSlots_length h
      omega
    · split at h
      · have := readMembers_length h
        omega
      · cases h

/-- Reads a document that holds one rule. -/
def decode (text : List UInt8) : Except Refusal Rule := readDocument read text

def writtenField (r : Rule) (f : Field) : List Char :=
  written f.key ++ ':' :: written (match f with
    | .name => r.name
    | .kind => r.kind
    | .pattern => r.pattern)

def writtenForm (r : Rule) : List Char :=
  '\x7b' ::
    (r.writtenField .name ++ ',' :: r.writtenField .kind ++
      ',' :: r.writtenField .pattern
    ++ ['\x7d'])

def encode (r : Rule) : String := .ofList r.writtenForm

end Rule

namespace RuleSet

/-- Reads the elements of a list behind its opening bracket. `done` holds the
rules read before, the last one first. -/
def readElements (isFirst : Bool) (done : List Rule) (s : List UInt8) :
    Except Fault (RuleSet × List UInt8) :=
  match hn : nextElement isFirst s with
  | .error f => .error f
  | .ok (false, s) => .ok (done.reverse, s)
  | .ok (true, r) =>
      match h : Rule.read r with
      | .error f => .error f
      | .ok (rule, r') =>
          have := nextElement_length hn
          have := Rule.read_length h
          readElements false (rule :: done) r'
termination_by s.length

def read (s : List UInt8) : Except Fault (RuleSet × List UInt8) :=
  match skipBlanks s with
  | [] => .error (.before .endOfValue [])
  | b :: rest =>
      if b = byte '[' then readElements true [] rest
      else .error (mismatch "a sequence" (b :: rest))

def decode (text : List UInt8) : Except Refusal RuleSet :=
  readDocument read text

def encode (rs : RuleSet) : String :=
  .ofList ('[' :: ([','].intercalate (rs.map Rule.writtenForm) ++ [']']))

end RuleSet

end RuleWatch
