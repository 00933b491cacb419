import RuleWatch.Store.Fault

/-!
The table of a database: entries under places, each place at most once. The
rules and the time of their last update have a place each, and both are written
together or not at all.
-/

namespace RuleWatch

inductive Cell
  | text (s : String)
  | bytes (b : List UInt8)
  deriving DecidableEq, Repr

structure Place where
  scope : String
  key : String
  deriving DecidableEq, Repr

structure Entry where
  value : Cell
  updatedAt : String
  deriving DecidableEq, Repr

namespace Place

def rules : Place := ⟨"plugin.angularpatterns", "angular_patterns"⟩

def lastUpdated : Place := ⟨"plugin.angularpatterns", "last_updated"⟩

/-- Places are ordered by scope and then by key. -/
def le (p q : Place) : Bool :=
  decide (p.scope < q.scope) || p.scope == q.scope && decide (p.key ≤ q.key)

end Place

abbrev Table := List (Place × Entry)

namespace Table

def find? (t : Table) (p : Place) : Option Entry := List.lookup p t

/-- Puts an entry at a place, in the stead of another one there. -/
def put (t : Table) (p : Place) (e : Entry) : Table :=
  (p, e) :: t.filter (·.1 ≠ p)

def sorted (t : Table) : Table := t.mergeSort fun a b => Place.le a.1 b.1

def text? (t : Table) (p : Place) : Except DatabaseError (Option String) :=
  match t.find? p with
  | none => .ok none
  | some ⟨.text s, _⟩ => .ok (some s)
  | some ⟨.bytes _, _⟩ => .error (.notText "value")

inductive Step
  | start
  | rules
  | stamp
  | finish
  deriving DecidableEq, Repr

/-- Goes on if nothing is wrong. -/
def pass (fault : Option DatabaseError) : Except DatabaseError Unit :=
  match fault with
  | some e => .error e
  | none => .ok ()

/-- Writes the rules and the time of writing them. A step that fails leaves
nothing behind. -/
def write (t : Table) (faultAt : Step → Option DatabaseError)
    (raw stamp : String) :
    Except DatabaseError Table := do
  pass (faultAt .start)
  pass (faultAt .rules)
  let t := t.put .rules ⟨.text raw, stamp⟩
  pass (faultAt .stamp)
  let t := t.put .lastUpdated ⟨.text stamp, stamp⟩
  pass (faultAt .finish)
  return t

end Table

end RuleWatch
