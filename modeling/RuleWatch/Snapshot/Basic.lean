import RuleWatch.Rule.Detector

/-!
Snapshots of the detectors. A snapshot never changes: new detectors come in a
new snapshot, which differs from all others even where the detectors are the
same.
-/

namespace RuleWatch

structure Snapshot where
  /-- Tells the snapshot from all others. -/
  serial : Nat
  detectors : List Detector

namespace Snapshot

def initial : Snapshot := ⟨0, []⟩

def count (s : Snapshot) : Nat := s.detectors.length

def detects (s : Snapshot) (content : List UInt8) : Bool :=
  Detector.detectAny s.detectors content

def same (s t : Snapshot) : Bool := s.serial == t.serial

end Snapshot

end RuleWatch
