import RuleWatch.Proofs.WrittenText
import RuleWatch.Rule.Document

/-!
Written rule sets are read back: the same rules in the same order, whatever
their texts hold. Each field is read into the draft of its rule, three fields
make the rule, and the list ends behind the last one.
-/

namespace RuleWatch

open Json

def separator (isFirst : Bool) : List UInt8 :=
  if isFirst then [] else [byte ',']

theorem nextKey_written (isFirst : Bool) (r : List UInt8) :
    nextKey isFirst (separator isFirst ++ byte '"' :: r) = .ok (true, r) := by
  have hq : byte '"' ≠ byte '\x7d' := by decide
  have hc : byte ',' ≠ byte '\x7d' := by decide
  have hb : skipBlanks (byte '"' :: r) = byte '"' :: r :=
    skipBlanks_of_not_blank (by decide) r
  cases isFirst with
  | true => simp [separator, nextKey, hb, hq]
  | false =>
      have hs : skipBlanks (byte ',' :: byte '"' :: r) =
          byte ',' :: byte '"' :: r :=
        skipBlanks_of_not_blank (by decide) _
      simp [separator, nextKey, hs, hb, hc]

theorem nextKey_closed (isFirst : Bool) (r : List UInt8) :
    nextKey isFirst (byte '\x7d' :: r) = .ok (false, r) := by
  simp [nextKey,
    skipBlanks_of_not_blank (show isBlank (byte '\x7d') = false by decide)]

theorem readColon_written (r : List UInt8) :
    readColon (byte ':' :: r) = .ok r := by
  simp [readColon,
    skipBlanks_of_not_blank (show isBlank (byte ':') = false by decide)]

theorem nextElement_written (isFirst : Bool) (r : List UInt8) :
    nextElement isFirst (separator isFirst ++ byte '\x7b' :: r) =
      .ok (true, byte '\x7b' :: r) := by
  have ho : byte '\x7b' ≠ byte ']' := by decide
  have hc : byte ',' ≠ byte ']' := by decide
  have hb : skipBlanks (byte '\x7b' :: r) = byte '\x7b' :: r :=
    skipBlanks_of_not_blank (by decide) r
  cases isFirst with
  | true => simp [separator, nextElement, hb, ho]
  | false =>
      have hs : skipBlanks (byte ',' :: byte '\x7b' :: r) =
          byte ',' :: byte '\x7b' :: r :=
        skipBlanks_of_not_blank (by decide) _
      simp [separator, nextElement, hs, hb, ho, hc]

theorem nextElement_closed (isFirst : Bool) (r : List UInt8) :
    nextElement isFirst (byte ']' :: r) = .ok (false, r) := by
  simp [nextElement,
    skipBlanks_of_not_blank (show isBlank (byte ']') = false by decide)]

namespace Rule

def get (r : Rule) : Field → String
  | .name => r.name
  | .kind => r.kind
  | .pattern => r.pattern

theorem writtenField_eq (r : Rule) (f : Field) :
    r.writtenField f = written f.key ++ ':' :: written (r.get f) := by
  cases f <;> rfl

theorem Field.ofKey?_key (f : Field) : Field.ofKey? f.key = some f := by
  cases f <;> decide

def fieldBytes (r : Rule) (f : Field) : List UInt8 :=
  (r.writtenField f).flatMap String.utf8EncodeChar

theorem readMember_fieldBytes (isFirst : Bool) {d : Draft} (rule : Rule)
    {f : Field} (h : d.get? f = none) (r : List UInt8) :
    readMember isFirst d (separator isFirst ++ (rule.fieldBytes f ++ r)) =
      .ok (some (d.set (rule.get f) f), r) := by
  have key := readString_written f.key
    (byte ':' :: ((written (rule.get f)).flatMap String.utf8EncodeChar ++ r))
  have bytes : rule.fieldBytes f ++ r =
      byte '"' :: ((f.key.toList.flatMap spell).flatMap String.utf8EncodeChar ++
        byte '"' :: byte ':' ::
          ((written (rule.get f)).flatMap String.utf8EncodeChar ++ r)) := by
    simp [fieldBytes, writtenField_eq, encode_written, utf8EncodeChar_of_lt]
  rw [bytes, readMember, nextKey_written]
  simp [key, Field.ofKey?_key, h, readColon_written, readText_written]

/-- One member is read, and the reading goes on with the draft that has its
value. -/
theorem readMembers_fieldBytes (isFirst : Bool) {d : Draft} (rule : Rule)
    {f : Field} (h : d.get? f = none) (r : List UInt8) :
    readMembers isFirst d (separator isFirst ++ (rule.fieldBytes f ++ r)) =
      readMembers false (d.set (rule.get f) f) r := by
  have member := readMember_fieldBytes isFirst rule h r
  rw [readMembers]
  split <;> simp_all

theorem readMembers_closed {isFirst : Bool} {d : Draft} {rule : Rule}
    (h : d.finish = .ok rule) (r : List UInt8) :
    readMembers isFirst d (byte '\x7d' :: r) = .ok (rule, r) := by
  have last : readMember isFirst d (byte '\x7d' :: r) = .ok (none, r) := by
    simp [readMember, nextKey_closed]
  rw [readMembers]
  split <;> simp_all

theorem utf8_writtenForm (rule : Rule) :
    rule.writtenForm.flatMap String.utf8EncodeChar =
      byte '\x7b' :: (separator true ++ (rule.fieldBytes .name ++
        (separator false ++ (rule.fieldBytes .kind ++
          (separator false ++
            (rule.fieldBytes .pattern ++ [byte '\x7d'])))))) := by
  simp [writtenForm, fieldBytes, separator, utf8EncodeChar_of_lt]

theorem read_written (rule : Rule) (r : List UInt8) :
    read (rule.writtenForm.flatMap String.utf8EncodeChar ++ r) =
      .ok (rule, r) := by
  have blank : isBlank (byte '\x7b') = false := by decide
  have list : byte '\x7b' ≠ byte '[' := by decide
  rw [utf8_writtenForm, List.cons_append, read, skipBlanks_of_not_blank blank]
  simp only [list, if_false, if_true, List.append_assoc]
  rw [readMembers_fieldBytes true rule rfl,
    readMembers_fieldBytes false rule rfl,
    readMembers_fieldBytes false rule rfl]
  exact readMembers_closed rfl r

/-- The document of one rule is read as the rule. -/
theorem decode_written (rule : Rule) :
    decode (Text.encode rule.encode) = .ok rule := by
  have whole := read_written rule []
  rw [List.append_nil] at whole
  rw [encode, Text.encode_ofList, decode, readDocument, whole]
  rfl

end Rule

namespace RuleSet

theorem readElements_closed (isFirst : Bool) (done : List Rule)
    (r : List UInt8) :
    readElements isFirst done (byte ']' :: r) = .ok (done.reverse, r) := by
  have last := nextElement_closed isFirst r
  rw [readElements]
  split <;> simp_all

theorem readElements_written (isFirst : Bool) (done : List Rule) (rule : Rule)
    (r : List UInt8) :
    readElements isFirst done
        (separator isFirst ++
          (rule.writtenForm.flatMap String.utf8EncodeChar ++ r)) =
      readElements false (rule :: done) r := by
  obtain ⟨rest, written⟩ : ∃ rest,
      rule.writtenForm.flatMap String.utf8EncodeChar ++ r =
        byte '\x7b' :: rest :=
    ⟨_, by rw [Rule.utf8_writtenForm, List.cons_append]⟩
  have read := Rule.read_written rule r
  rw [written] at read ⊢
  have next := nextElement_written isFirst rest
  rw [readElements]
  split
  · simp_all
  · simp_all
  · next hn =>
      rw [next] at hn
      cases hn
      split <;> simp_all

def elementBytes (isFirst : Bool) : RuleSet → List UInt8
  | [] => []
  | rule :: rules =>
      separator isFirst ++ (rule.writtenForm.flatMap String.utf8EncodeChar ++
        elementBytes false rules)

theorem readElements_elementBytes (isFirst : Bool) (done rules : RuleSet)
    (r : List UInt8) :
    readElements isFirst done (elementBytes isFirst rules ++ byte ']' :: r) =
      .ok (done.reverse ++ rules, r) := by
  induction rules generalizing isFirst done with
  | nil => simpa [elementBytes] using readElements_closed isFirst done r
  | cons rule rules ih =>
      rw [elementBytes, List.append_assoc, List.append_assoc,
        readElements_written, ih]
      simp

theorem utf8_intercalate (rules : RuleSet) :
    ([','].intercalate (rules.map Rule.writtenForm)).flatMap
      String.utf8EncodeChar =
      elementBytes true rules := by
  cases rules with
  | nil => rfl
  | cons rule rules =>
      induction rules generalizing rule with
      | nil => simp [elementBytes, separator, List.intercalate]
      | cons next rules ih =>
          have rest := ih next
          simp only [elementBytes, separator, if_true, List.nil_append,
            List.map_cons] at rest ⊢
          rw [List.intercalate_cons_cons, List.flatMap_append,
            List.flatMap_append, rest]
          simp [utf8EncodeChar_of_lt]

theorem encode_encode (rules : RuleSet) :
    Text.encode (encode rules) =
      byte '[' :: (elementBytes true rules ++ [byte ']']) := by
  have ho : String.utf8EncodeChar '[' = [byte '['] :=
    utf8EncodeChar_of_lt (by decide)
  have hc : String.utf8EncodeChar ']' = [byte ']'] :=
    utf8EncodeChar_of_lt (by decide)
  rw [encode, Text.encode_ofList, List.flatMap_cons,
    List.flatMap_append, utf8_intercalate]
  simp [ho, hc]

/-- A written rule set is read as the rule set. -/
theorem decode_written (rules : RuleSet) :
    decode (Text.encode (encode rules)) = .ok rules := by
  have elements := readElements_elementBytes true [] rules []
  have blank : isBlank (byte '[') = false := by decide
  have whole : read (byte '[' :: (elementBytes true rules ++ [byte ']'])) =
      .ok (rules, []) := by
    rw [read, skipBlanks_of_not_blank blank]
    simpa using elements
  rw [encode_encode, decode, readDocument, whole]
  rfl

end RuleSet

end RuleWatch
