/-!
Results of steps. Steps that are taken one after another come to a value just
when each of them does, and a step with a condition does so just when the
condition holds.
-/

namespace RuleWatch

variable {ε α β : Type}

theorem bind_eq_ok_iff {x : Except ε α} {f : α → Except ε β} {b : β} :
    (x >>= f) = .ok b ↔ ∃ a, x = .ok a ∧ f a = .ok b := by
  cases x with
  | error e => exact iff_of_false nofun fun ⟨a, h, _⟩ => nomatch h
  | ok a => exact ⟨fun h => ⟨a, rfl, h⟩, fun ⟨_, rfl, h⟩ => h⟩

theorem pure_eq_ok_iff {a b : α} : (pure a : Except ε α) = .ok b ↔ a = b :=
  ⟨fun h => Except.ok.inj h, fun h => congrArg Except.ok h⟩

theorem refused_or_eq_ok_iff {p : Prop} [Decidable p] {e : ε}
    {f : β → Except ε α} {x : Except ε α} {a : α} :
    (if p then throw e >>= f else x) = .ok a ↔ ¬p ∧ x = .ok a := by
  split
  · next h => exact iff_of_false nofun fun refused => refused.1 h
  · next h => exact (and_iff_right h).symm

theorem granted_or_eq_ok_iff {p : Prop} [Decidable p] {e : ε}
    {x : Except ε α} {a : α} :
    (if p then x else throw e) = .ok a ↔ p ∧ x = .ok a := by
  split
  · next h => exact (and_iff_right h).symm
  · next h => exact iff_of_false nofun fun granted => h granted.1

end RuleWatch
