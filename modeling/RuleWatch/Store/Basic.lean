import RuleWatch.Store.Database
import RuleWatch.Store.Memory

/-!
Stores of rule sets. A store keeps one text and the time of its last update.
-/

namespace RuleWatch

inductive Store
  | memory (s : MemoryStore)
  | database (db : Database)

namespace Store

def get : Store → Except StoreError (Option String)
  | memory s => s.get
  | database db => db.get

/-- Keeps a text. A failure leaves the store as it is. -/
def set (s : Store) (value : String) (now : Instant) :
    Except StoreError Store :=
  match s with
  | memory s => (s.set value now).map memory
  | database db => (db.set value now).map database

def lastUpdated : Store → Except StoreError Instant
  | memory s => s.lastUpdated
  | database db => db.lastUpdated

end Store

end RuleWatch
