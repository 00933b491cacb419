import RuleWatch.Proofs.Spellings

/-!
All spellings of a value, and passing over them. Blanks may stand around
everything inside a list or an object, numbers have a sign, a whole part, a
fraction and a power of ten, and brackets are nested to any depth. Main
statement: whatever well-formed value stands in front is passed over to its end,
and not further.
-/

namespace RuleWatch.Json

/-- What a document says. A string may spell no text, and so may a key. -/
inductive Value
  | null
  | boolean (b : Bool)
  | number (form : List UInt8)
  | string (text : Option String)
  | list (elements : List Value)
  | object (members : List (Option String × Value))

abbrev Members := List (Option String × Value)

/-! ### Blanks, strings and numbers -/

def Blank (bs : List UInt8) : Prop := ∀ b ∈ bs, isBlank b = true

inductive StringForm : Option String → List UInt8 → Prop
  | text {s : String} {bs : List UInt8} (h : TextForm s.toList bs) :
      StringForm (some s) bs
  | noText {bs : List UInt8} (h : Contents bs)
      (broken : ∀ cs, ¬ TextForm cs bs) :
      StringForm none bs

theorem StringForm.contents {text : Option String} {bs : List UInt8}
    (h : StringForm text bs) :
    Contents bs := by
  cases h with
  | text h => exact h.contents
  | noText h => exact h

theorem StringForm.itself (s : String)
    (h :
      (s.toList.all fun c => c != '"' && c != '\\' && decide (32 ≤ c.toNat)) =
        true) :
    StringForm (some s) (Text.encode s) :=
  .text (textForm_itself (by simpa [and_assoc] using h))

theorem StringForm.low {n : Nat} {digits rest : List UInt8}
    (form : HexForm n digits) (low : 0xDC00 ≤ n ∧ n < 0xE000)
    (others : Contents rest) :
    StringForm none (byte '\\' :: byte 'u' :: digits ++ rest) := by
  refine .noText (.number form others) fun cs text => ?_
  have read := readPieces_textForm text [] []
  obtain ⟨f, refused⟩ := readPiece_low form low (rest ++ [byte '"'])
  rw [List.append_assoc, readPieces_of_error refused] at read
  cases read

def Digits (bs : List UInt8) : Prop := bs ≠ [] ∧ ∀ b ∈ bs, isDigit b = true

/-- The whole part of a number begins with no zero but its only digit. -/
inductive WholeForm : List UInt8 → Prop
  | zero : WholeForm [byte '0']
  | digits {b : UInt8} {bs : List UInt8} (first : isDigit b = true)
      (lead : b ≠ byte '0') (others : ∀ x ∈ bs, isDigit x = true) :
      WholeForm (b :: bs)

inductive FractionForm : List UInt8 → Prop
  | none : FractionForm []
  | some {bs : List UInt8} (h : Digits bs) : FractionForm (byte '.' :: bs)

inductive PowerForm : List UInt8 → Prop
  | none : PowerForm []
  | some {mark : UInt8} {sign bs : List UInt8}
      (hm : mark = byte 'e' ∨ mark = byte 'E')
      (hs : sign = [] ∨ sign = [byte '+'] ∨ sign = [byte '-']) (h : Digits bs) :
      PowerForm (mark :: (sign ++ bs))

inductive NumberForm : List UInt8 → Prop
  | parts {sign whole fraction power : List UInt8}
      (hs : sign = [] ∨ sign = [byte '-']) (hw : WholeForm whole)
      (hf : FractionForm fraction) (hp : PowerForm power) :
      NumberForm (sign ++ (whole ++ (fraction ++ power)))

/-! ### Values -/

/-- What stands in front of an element or a member: blanks, with a comma among
them unless it is the first one. -/
inductive Lead : Bool → List UInt8 → Prop
  | first {ws : List UInt8} (h : Blank ws) : Lead true ws
  | next {ws ws' : List UInt8} (h : Blank ws) (h' : Blank ws') :
      Lead false (ws ++ byte ',' :: ws')

/-- A stretch of a document: a value, or what is left of a list or an object
with its closing bracket. -/
inductive Part
  | value (v : Value)
  | elements (isFirst : Bool) (vs : List Value)
  | members (isFirst : Bool) (ms : Members)

inductive Spells : Part → List UInt8 → Prop
  | null : Spells (.value .null) ("null".toList.map byte)
  | yes : Spells (.value (.boolean true)) ("true".toList.map byte)
  | no : Spells (.value (.boolean false)) ("false".toList.map byte)
  | number {bs : List UInt8} (h : NumberForm bs) :
      Spells (.value (.number bs)) bs
  | string {text : Option String} {bs : List UInt8} (h : StringForm text bs) :
      Spells (.value (.string text)) (byte '"' :: (bs ++ [byte '"']))
  | list {vs : List Value} {bs : List UInt8}
      (h : Spells (.elements true vs) bs) :
      Spells (.value (.list vs)) (byte '[' :: bs)
  | object {ms : Members} {bs : List UInt8} (h : Spells (.members true ms) bs) :
      Spells (.value (.object ms)) (byte '\x7b' :: bs)
  | listEnd {isFirst : Bool} {ws : List UInt8} (h : Blank ws) :
      Spells (.elements isFirst []) (ws ++ [byte ']'])
  | element {isFirst : Bool} {v : Value} {vs : List Value}
      {lead bs rest : List UInt8} (hl : Lead isFirst lead)
      (hv : Spells (.value v) bs) (hr : Spells (.elements false vs) rest) :
      Spells (.elements isFirst (v :: vs)) (lead ++ (bs ++ rest))
  | objectEnd {isFirst : Bool} {ws : List UInt8} (h : Blank ws) :
      Spells (.members isFirst []) (ws ++ [byte '\x7d'])
  | member {isFirst : Bool} {key : Option String} {v : Value} {ms : Members}
      {lead name ws ws' bs rest : List UInt8} (hl : Lead isFirst lead)
      (hk : StringForm key name) (hw : Blank ws) (hw' : Blank ws')
      (hv : Spells (.value v) bs) (hr : Spells (.members false ms) rest) :
      Spells (.members isFirst ((key, v) :: ms))
        (lead ++
          byte '"' ::
            (name ++ byte '"' :: (ws ++ byte ':' :: (ws' ++ (bs ++ rest)))))

inductive Document (v : Value) : List UInt8 → Prop
  | mk {ws bs ws' : List UInt8} (h : Blank ws) (hv : Spells (.value v) bs)
      (h' : Blank ws') :
      Document v (ws ++ (bs ++ ws'))

/-! ### Spellings without blanks -/

theorem blank_nil : Blank [] := nofun

theorem Spells.firstMember {key : Option String} {v : Value} {ms : Members}
    {name bs rest : List UInt8} (hk : StringForm key name)
    (hv : Spells (.value v) bs) (hr : Spells (.members false ms) rest) :
    Spells (.members true ((key, v) :: ms))
      (byte '"' :: (name ++ byte '"' :: byte ':' :: (bs ++ rest))) :=
  .member (.first blank_nil) hk blank_nil blank_nil hv hr

theorem Spells.nextMember {key : Option String} {v : Value} {ms : Members}
    {name bs rest : List UInt8} (hk : StringForm key name)
    (hv : Spells (.value v) bs) (hr : Spells (.members false ms) rest) :
    Spells (.members false ((key, v) :: ms))
      (byte ',' :: byte '"' ::
        (name ++ byte '"' :: byte ':' :: (bs ++ rest))) :=
  .member (.next blank_nil blank_nil) hk blank_nil blank_nil hv hr

theorem Document.bare {v : Value} {bs : List UInt8} (h : Spells (.value v) bs) :
    Document v bs := by
  simpa using Document.mk blank_nil h blank_nil

/-! ### From place to place -/

/-- Whether a stretch leads from a place to another one, whatever is open. -/
def Leads (p : Place) (bs : List UInt8) (q : Place) : Prop :=
  ∀ (open_ : List Bracket) (r : List UInt8),
    skip p open_ (bs ++ r) = skip q open_ r

theorem Leads.trans {p q s : Place} {bs rest : List UInt8} (h : Leads p bs q)
    (h' : Leads q rest s) : Leads p (bs ++ rest) s := by
  intro open_ r
  rw [List.append_assoc, h, h']

theorem leads_nil (p : Place) : Leads p [] p := fun _ _ => rfl

theorem leads_of_move {p q : Place} {b : UInt8}
    (h : ∀ open_, move open_ b p = .go q open_) :
    Leads p [b] q := by
  intro open_ r
  rw [List.singleton_append, skip, h]

/-- Bytes that keep a place lead back to it. -/
theorem leads_of_forall {p : Place} {bs : List UInt8}
    (h : ∀ b ∈ bs, ∀ open_, move open_ b p = .go p open_) : Leads p bs p := by
  induction bs with
  | nil => exact leads_nil p
  | cons b bs ih =>
      exact (leads_of_move (h b (List.mem_cons_self ..))).trans
        (ih fun x hx => h x (List.mem_cons_of_mem _ hx))

theorem leads_blank {p : Place}
    (hp : p = .value ∨ p = .opened ∨ p = .next ∨ p = .key ∨ p = .colon)
    {ws : List UInt8} (h : Blank ws) : Leads p ws p := by
  refine leads_of_forall fun b hb open_ => ?_
  rcases hp with rfl | rfl | rfl | rfl | rfl <;> simp [move, h b hb]

theorem leads_hexForm (isKey : Bool) {n : Nat} {digits : List UInt8}
    (h : HexForm n digits) :
    Leads (.hex isKey 4 true) digits (.string isKey) := by
  cases h with
  | four ha hb hc hd =>
      intro open_ r
      simp [skip, move, ha.read, hb.read, hc.read, hd.read]

theorem leads_contents (isKey : Bool) {bs : List UInt8} (h : Contents bs) :
    Leads (.string isKey) bs (.string isKey) := by
  have hq : byte '\\' ≠ byte '"' := by decide
  have backslash : Leads (.string isKey) [byte '\\'] (.escape isKey) :=
    leads_of_move fun open_ => by simp [move, hq]
  induction h with
  | nil => exact leads_nil _
  | itself hq hb h others ih =>
      refine Leads.trans (leads_of_forall fun b hm open_ => ?_) ih
      obtain ⟨hq, hb, hc⟩ := plain_of_mem_utf8EncodeChar hq hb h hm
      simp [move, hq, hb, hc]
  | @letter e c rest h others ih =>
      have all : ∀ x ∈ letters,
          byte x.1 ≠ byte 'u' ∧ move.isEscapable (byte x.1) = true := by
        decide
      obtain ⟨hu, escapable⟩ := all _ h
      exact (backslash.trans
        (leads_of_move fun open_ => by simp [move, hu, escapable])).trans ih
  | @number n digits rest form others ih =>
      have mark : Leads (.escape isKey) [byte 'u'] (.hex isKey 4 true) :=
        leads_of_move fun open_ => by simp [move]
      exact ((backslash.trans mark).trans (leads_hexForm isKey form)).trans ih

/-! ### Numbers -/

theorem leads_of_next? {part next : NumberPart} {b : UInt8}
    (h : part.next? b = some next) :
    Leads (.number part) [b] (.number next) :=
  leads_of_move fun open_ => by simp [move, h]

theorem leads_digits {part : NumberPart}
    (h : ∀ b, isDigit b = true → part.next? b = some part) {bs : List UInt8}
    (digits : ∀ b ∈ bs, isDigit b = true) :
    Leads (.number part) bs (.number part) :=
  leads_of_forall fun b hb open_ => by simp [move, h b (digits b hb)]

theorem leads_to_digits {part next : NumberPart}
    (first : ∀ b, isDigit b = true → part.next? b = some next)
    (others : ∀ b, isDigit b = true → next.next? b = some next)
    {bs : List UInt8} (h : Digits bs) :
    Leads (.number part) bs (.number next) := by
  obtain ⟨ne, digits⟩ := h
  cases bs with
  | nil => exact absurd rfl ne
  | cons b bs =>
      exact (leads_of_next? (first b (digits b (List.mem_cons_self ..)))).trans
        (leads_digits others fun x hx => digits x (List.mem_cons_of_mem _ hx))

def NumberPart.isWhole (part : NumberPart) : Prop :=
  part = .zero ∨ part = .whole

theorem leads_fractionForm {part : NumberPart} (hp : part.isWhole)
    {bs : List UInt8} (h : FractionForm bs) :
    ∃ next, Leads (.number part) bs (.number next) ∧
      (next.isWhole ∨ next = .fraction) := by
  cases h with
  | none => exact ⟨part, leads_nil _, .inl hp⟩
  | @some bs h =>
      have point : part.next? (byte '.') = some .point := by
        rcases hp with rfl | rfl
        · rfl
        · decide
      refine ⟨.fraction,
        (leads_of_next? point).trans (leads_to_digits ?_ ?_ h), .inr rfl⟩
      · intro b hb
        simp [NumberPart.next?, hb]
      · intro b hb
        simp [NumberPart.next?, hb]

theorem leads_powerForm {part : NumberPart}
    (hp : part.isWhole ∨ part = .fraction) {bs : List UInt8}
    (h : PowerForm bs) :
    ∃ next, Leads (.number part) bs (.number next) ∧ next.isFull = true := by
  cases h with
  | none =>
      exact ⟨part, leads_nil _, by rcases hp with (rfl | rfl) | rfl <;> rfl⟩
  | @some mark sign bs hm hs h =>
      have begun : part.next? mark = some .mark := by
        rcases hp with (rfl | rfl) | rfl <;> rcases hm with rfl | rfl <;> decide
      have more (b : UInt8) (hb : isDigit b = true) :
          NumberPart.next? b .power = some .power := by
        simp [NumberPart.next?, hb]
      have behindSign (b : UInt8) (hb : isDigit b = true) :
          NumberPart.next? b .markSign = some .power := by
        simp [NumberPart.next?, hb]
      have behindMark (b : UInt8) (hb : isDigit b = true) :
          NumberPart.next? b .mark = some .power := by
        have plus : b ≠ byte '+' := by rintro rfl; exact absurd hb (by decide)
        have minus : b ≠ byte '-' := by rintro rfl; exact absurd hb (by decide)
        simp [NumberPart.next?, hb, plus, minus]
      refine ⟨.power, (leads_of_next? begun).trans ?_, rfl⟩
      rcases hs with rfl | rfl | rfl
      · exact leads_to_digits behindMark more h
      · exact (leads_of_next? (by decide)).trans
          (leads_to_digits behindSign more h)
      · exact (leads_of_next? (by decide)).trans
          (leads_to_digits behindSign more h)

theorem leads_wholeForm {p : Place}
    (hp : ∀ b open_, isDigit b = true → move open_ b p =
      .go (.number (if b = byte '0' then .zero else .whole)) open_)
      {bs : List UInt8}
    (h : WholeForm bs) : ∃ part, Leads p bs (.number part) ∧ part.isWhole := by
  cases h with
  | zero =>
      refine ⟨.zero, leads_of_move fun open_ => ?_, .inl rfl⟩
      rw [hp _ open_ (by decide), if_pos rfl]
  | @digits b bs first lead others =>
      have begun : Leads p [b] (.number .whole) := leads_of_move fun open_ => by
        rw [hp b open_ first, if_neg lead]
      refine ⟨.whole,
        begun.trans (leads_digits (fun b hb => ?_) others), .inr rfl⟩
      simp [NumberPart.next?, hb]

theorem move_value_digit {b : UInt8} (h : isDigit b = true)
    (open_ : List Bracket) :
    move open_ b .value =
      .go (.number (if b = byte '0' then .zero else .whole)) open_ := by
  have ne {c : UInt8} (hc : isDigit c = false) : b ≠ c := by
    rintro rfl
    simp [h] at hc
  have blank : isBlank b = false := by
    simp [isBlank, ne (c := 32) (by decide), ne (c := 10) (by decide),
      ne (c := 9) (by decide), ne (c := 13) (by decide)]
  simp only [move, blank, startValue, h, ne (c := byte 'n') (by decide),
    ne (c := byte 't') (by decide), ne (c := byte 'f') (by decide),
    ne (c := byte '-') (by decide)]
  by_cases zero : b = byte '0' <;> simp [zero]

theorem move_sign_digit {b : UInt8} (h : isDigit b = true)
    (open_ : List Bracket) :
    move open_ b (.number .sign) =
      .go (.number (if b = byte '0' then .zero else .whole)) open_ := by
  by_cases zero : b = byte '0' <;> simp [move, NumberPart.next?, h, zero]

/-- A whole number leads to a part that it may end with. -/
theorem leads_numberForm {bs : List UInt8} (h : NumberForm bs) :
    ∃ part, Leads .value bs (.number part) ∧ part.isFull = true := by
  cases h with
  | @parts sign _ _ _ hs hw hf hp =>
      obtain ⟨signed, begun,
          whole⟩ : ∃ p, Leads .value sign p ∧ ∀ b open_, isDigit b = true →
          move open_ b p =
            .go (.number (if b = byte '0' then .zero else .whole)) open_ := by
        rcases hs with rfl | rfl
        · exact ⟨.value, leads_nil _, fun b open_ hb =>
            move_value_digit hb open_⟩
        · exact ⟨.number .sign, leads_of_move fun open_ => rfl,
            fun b open_ hb => move_sign_digit hb open_⟩
      obtain ⟨part, digits, isWhole⟩ := leads_wholeForm whole hw
      obtain ⟨next, fraction, hn⟩ := leads_fractionForm isWhole hf
      obtain ⟨last, power, full⟩ := leads_powerForm hn hp
      exact ⟨last, begun.trans (digits.trans (fraction.trans power)), full⟩

/-! ### The end of a value -/

/-- What stands behind a value ends it: nothing, a blank, a comma or a closing
bracket. -/
def Ends (r : List UInt8) : Prop :=
  ∀ b ∈ r.head?, isBlank b = true ∨ b = byte ',' ∨
    b = byte ']' ∨ b = byte '\x7d'

def behind (open_ : List Bracket) (r : List UInt8) :
    Except Fault (List UInt8) :=
  match open_ with
  | [] => .ok r
  | _ :: _ => skip .next open_ r

theorem skip_of_closeValue {p : Place} {open_ left : List Bracket} {b : UInt8}
    (h : move open_ b p = Move.closeValue left) (r : List UInt8) :
    skip p open_ (b :: r) = behind left r := by
  rw [skip, h]
  cases left <;> rfl

theorem skip_number_end {part : NumberPart} (full : part.isFull = true)
    {r : List UInt8} (h : Ends r) (open_ : List Bracket) :
    skip (.number part) open_ r = behind open_ r := by
  cases r with
  | nil =>
      cases open_ with
      | nil => simp [skip, missing, full, behind]
      | cons k open_ => simp [skip, missing, full, behind]
  | cons b r =>
      have stops : part.next? b = none ∧ isDigit b = false := by
        have all : ∀ b ∈ [32, 10, 9, 13, byte ',', byte ']', byte '\x7d'],
            part.next? b = none ∧ isDigit b = false := by
          cases part <;> decide +kernel
        refine all b ?_
        have := h b rfl
        simpa only [isBlank, Bool.or_eq_true, decide_eq_true_eq, List.mem_cons,
          List.not_mem_nil, or_false, or_assoc] using this
      cases open_ with
      | nil => simp [skip, move, stops, full, behind]
      | cons k open_ =>
          have same : move (k :: open_) b (.number part) =
              move (k :: open_) b .next := by
            simp [move, stops, full]
          rw [behind, skip, skip, same]

theorem ends_of_blank {ws : List UInt8} (h : Blank ws) {b : UInt8}
    (hb : b = byte ',' ∨ b = byte ']' ∨ b = byte '\x7d') (r : List UInt8) :
    Ends (ws ++ b :: r) := by
  intro x hx
  cases ws with
  | nil =>
      cases hx
      exact .inr hb
  | cons w ws =>
      cases hx
      exact .inl (h _ (List.mem_cons_self ..))

theorem Lead.ends {lead : List UInt8} (h : Lead false lead) (r : List UInt8) :
    Ends (lead ++ r) := by
  cases h with
  | next h h' =>
      rw [List.append_assoc]
      exact ends_of_blank h (.inl rfl) _

theorem Spells.elements_ends {vs : List Value} {bs : List UInt8}
    (h : Spells (.elements false vs) bs) (r : List UInt8) : Ends (bs ++ r) := by
  cases h with
  | listEnd h =>
      rw [List.append_assoc]
      exact ends_of_blank h (.inr (.inl rfl)) r
  | element hl hv hr =>
      rw [List.append_assoc]
      exact hl.ends _

theorem Spells.members_ends {ms : Members} {bs : List UInt8}
    (h : Spells (.members false ms) bs) (r : List UInt8) : Ends (bs ++ r) := by
  cases h with
  | objectEnd h =>
      rw [List.append_assoc]
      exact ends_of_blank h (.inr (.inr rfl)) r
  | member hl hk hw hw' hv hr =>
      rw [List.append_assoc]
      exact hl.ends _

/-! ### The start of a value -/

theorem NumberForm.exists_cons {bs : List UInt8} (h : NumberForm bs) :
    ∃ b rest, bs = b :: rest ∧ (b = byte '-' ∨ isDigit b = true) := by
  cases h with
  | parts hs hw hf hp =>
      rcases hs with rfl | rfl
      · cases hw with
        | zero => exact ⟨_, _, rfl, .inr (by decide)⟩
        | digits first lead others => exact ⟨_, _, rfl, .inr first⟩
      · exact ⟨_, _, rfl, .inl rfl⟩

/-- A byte that is no blank, no comma and no closing bracket. Only strings begin
with a quote. -/
structure Begins (v : Value) (b : UInt8) : Prop where
  notBlank : isBlank b = false
  notComma : b ≠ byte ','
  notClosing : b ≠ byte ']' ∧ b ≠ byte '\x7d'
  notQuote : (∀ text, v ≠ .string text) → b ≠ byte '"'

theorem Spells.exists_cons {v : Value} {bs : List UInt8}
    (h : Spells (.value v) bs) :
    ∃ b rest, bs = b :: rest ∧ Begins v b := by
  cases h with
  | null =>
      exact ⟨byte 'n', _, rfl, by decide, by decide, by decide,
        fun _ => by decide⟩
  | yes =>
      exact ⟨byte 't', _, rfl, by decide, by decide, by decide,
        fun _ => by decide⟩
  | no =>
      exact ⟨byte 'f', _, rfl, by decide, by decide, by decide,
        fun _ => by decide⟩
  | string h =>
      exact ⟨byte '"', _, rfl, by decide, by decide, by decide,
        fun h => absurd rfl (h _)⟩
  | list h =>
      exact ⟨byte '[', _, rfl, by decide, by decide, by decide,
        fun _ => by decide⟩
  | object h =>
      exact ⟨byte '\x7b', _, rfl, by decide, by decide, by decide,
        fun _ => by decide⟩
  | number h =>
      obtain ⟨b, rest, rfl, sign | digit⟩ := h.exists_cons
      · subst sign
        exact ⟨_, rest, rfl, by decide, by decide, by decide,
          fun _ => by decide⟩
      · have ne {c : UInt8} (hc : isDigit c = false) : b ≠ c := by
          rintro rfl
          simp [digit] at hc
        refine ⟨b, rest, rfl, ?_, ne (by decide),
          ⟨ne (by decide), ne (by decide)⟩, fun _ => ne (by decide)⟩
        simp [isBlank, ne (c := 32) (by decide), ne (c := 10) (by decide),
          ne (c := 9) (by decide), ne (c := 13) (by decide)]

/-! ### Passing over -/

def Place.inside (isFirst : Bool) : Place := if isFirst then .opened else .next

def Bracket.place : Bracket → Place
  | list => .value
  | object => .key

theorem skip_comma (k : Bracket) (open_ : List Bracket) (r : List UInt8) :
    skip .next (k :: open_) (byte ',' :: r) = skip k.place (k :: open_) r := by
  have notBlank : isBlank (byte ',') = false := by decide
  cases k <;> simp [skip, move, notBlank, afterValue, Bracket.place]

/-- Whatever stands in front of an element or a member leads to the place of it,
where the byte that begins it is taken in the same way. -/
theorem skip_lead {isFirst : Bool} {lead : List UInt8} (hl : Lead isFirst lead)
    (k : Bracket) (open_ : List Bracket) {b : UInt8}
    (same : move (k :: open_) b .opened = move (k :: open_) b k.place)
    (r : List UInt8) :
    skip (.inside isFirst) (k :: open_) (lead ++ b :: r) =
      skip k.place (k :: open_) (b :: r) := by
  cases hl with
  | first h =>
      rw [Place.inside, if_pos rfl, leads_blank (by simp) h, skip, skip, same]
  | next h h' =>
      have place : k.place = .value ∨ k.place = .key := by
        cases k <;> simp [Bracket.place]
      rw [Place.inside, if_neg (by decide), List.append_assoc,
        leads_blank (by simp) h, List.cons_append, skip_comma, leads_blank _ h']
      rcases place with place | place <;> simp [place]

theorem skip_closing (isFirst : Bool) {ws : List UInt8} (h : Blank ws)
    (k : Bracket) (open_ : List Bracket) (r : List UInt8) :
    skip (.inside isFirst) (k :: open_) (ws ++ k.closing :: r) =
      behind open_ r := by
  have place : Place.inside isFirst = .opened ∨
      Place.inside isFirst = .next := by
    cases isFirst <;> simp [Place.inside]
  rw [leads_blank (by rcases place with h | h <;> simp [h]) h]
  refine skip_of_closeValue ?_ r
  rcases place with h | h <;> rw [h]
  · cases k <;> simp [move, isBlank, afterOpening, Bracket.closing, byte]
  · cases k <;> simp [move, isBlank, afterValue, Bracket.closing, byte]

theorem skip_key {key : Option String} {name ws ws' : List UInt8}
    (hk : StringForm key name) (hw : Blank ws) (hw' : Blank ws')
    (open_ : List Bracket) (r : List UInt8) :
    skip .key open_
      (byte '"' :: (name ++ byte '"' :: (ws ++ byte ':' :: (ws' ++ r)))) =
      skip .value open_ r := by
  have opening : Leads .key [byte '"'] (.string true) :=
    leads_of_move fun _ => rfl
  have closing : Leads (.string true) [byte '"'] .colon :=
    leads_of_move fun _ => rfl
  have colon : Leads .colon [byte ':'] .value := leads_of_move fun _ => rfl
  have whole := opening.trans <| (leads_contents true hk.contents).trans <|
    closing.trans <| (leads_blank (by simp) hw).trans <|
    colon.trans <| leads_blank (by simp) hw'
  simpa using whole open_ r

/-- What passing over a stretch comes to: to what is behind the value, or behind
the list or the object that it ends. -/
def PassesOver : Part → List UInt8 → Prop
  | .value _, bs =>
      ∀ open_ r, Ends r → skip .value open_ (bs ++ r) = behind open_ r
  | .elements isFirst _, bs => ∀ open_ r,
      skip (.inside isFirst) (.list :: open_) (bs ++ r) = behind open_ r
  | .members isFirst _, bs => ∀ open_ r,
      skip (.inside isFirst) (.object :: open_) (bs ++ r) = behind open_ r

/-- The letters of a word lead on, and the last one closes the value. -/
theorem skip_word {left : List UInt8} (ne : left ≠ []) (open_ : List Bracket)
    (r : List UInt8) :
    skip (.word left) open_ (left ++ r) = behind open_ r := by
  induction left with
  | nil => exact absurd rfl ne
  | cons c left ih =>
      cases left with
      | nil => exact skip_of_closeValue (by simp [move]) r
      | cons d left =>
          have onwards :
              Leads (.word (c :: d :: left)) [c] (.word (d :: left)) :=
            leads_of_move fun _ => by simp [move]
          exact (onwards open_ _).trans (ih (by simp))

theorem Spells.passesOver {part : Part} {bs : List UInt8} (h : Spells part bs) :
    PassesOver part bs := by
  -- The brackets that are open are any, since an element is passed over inside
  -- one bracket more.
  induction h with
  | null =>
      intro open_ r _
      exact skip_word (by simp) open_ r
  | yes =>
      intro open_ r _
      exact skip_word (by simp) open_ r
  | no =>
      intro open_ r _
      exact skip_word (by simp) open_ r
  | number h =>
      intro open_ r hr
      obtain ⟨part, leads, full⟩ := leads_numberForm h
      rw [leads, skip_number_end full hr]
  | @string text bs h =>
      intro open_ r _
      have opening : Leads .value [byte '"'] (.string false) :=
        leads_of_move fun _ => rfl
      have inside := opening.trans (leads_contents false h.contents)
      have closed : move open_ (byte '"') (.string false) =
          Move.closeValue open_ := rfl
      have whole := inside open_ (byte '"' :: r)
      rw [skip_of_closeValue closed] at whole
      simpa using whole
  | list h ih =>
      intro open_ r _
      exact ih open_ r
  | object h ih =>
      intro open_ r _
      exact ih open_ r
  | listEnd h =>
      intro open_ r
      rw [List.append_assoc]
      exact skip_closing _ h .list open_ r
  | objectEnd h =>
      intro open_ r
      rw [List.append_assoc]
      exact skip_closing _ h .object open_ r
  | @element isFirst v vs lead bs rest hl hv hr ihv ihr =>
      intro open_ r
      -- Behind the opening bracket a closing one could stand, and no element
      -- begins like one.
      obtain ⟨b, more, bytes, begins⟩ := hv.exists_cons
      have same : move (.list :: open_) b .opened =
          move (.list :: open_) b .value := by
        simp [move, begins.notBlank, afterOpening, Bracket.closing,
          begins.notClosing.1]
      have here := skip_lead hl .list open_ same (more ++ (rest ++ r))
      have passed := ihv (.list :: open_) (rest ++ r) (hr.elements_ends r)
      have onwards := ihr open_ r
      rw [bytes, List.cons_append] at passed
      rw [bytes, List.append_assoc, List.append_assoc, List.cons_append, here]
      exact passed.trans onwards
  | @member isFirst key v ms lead name ws ws' bs rest hl hk hw hw' hv hr
      ihv ihr =>
      intro open_ r
      have same : move (.object :: open_) (byte '"') .opened =
          move (.object :: open_) (byte '"') .key := rfl
      have here := skip_lead hl .object open_ same
        (name ++ byte '"' :: (ws ++ byte ':' :: (ws' ++ (bs ++ (rest ++ r)))))
      have passed := ihv (.object :: open_) (rest ++ r) (hr.members_ends r)
      have onwards := ihr open_ r
      rw [List.append_assoc]
      simp only [List.cons_append, List.append_assoc]
      rw [here, Bracket.place, skip_key hk hw hw']
      exact passed.trans onwards

/-- A well-formed value is passed over to its end. -/
theorem skipValue_spells {v : Value} {ws bs r : List UInt8} (hw : Blank ws)
    (hv : Spells (.value v) bs) (hr : Ends r) :
    skipValue (ws ++ (bs ++ r)) = .ok r := by
  rw [skipValue, leads_blank (by simp) hw]
  exact hv.passesOver [] r hr

end RuleWatch.Json
