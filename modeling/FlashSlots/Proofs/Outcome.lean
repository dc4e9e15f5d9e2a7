/-!
# Outcomes

Sequences of steps that may fail, told apart by whether they succeed.
-/

namespace FlashSlots

variable {ε δ α β : Type}

/-- A sequence succeeds exactly if its first part does and what follows does
with the result. -/
theorem bind_eq_ok_iff {first : Except ε α} {behind : α -> Except ε β} {result : β} :
    (first >>= behind) = .ok result ↔
      ∃ middle, first = .ok middle ∧ behind middle = .ok result := by
  cases first with
  | error cause =>
    constructor
    · intro impossible
      cases impossible
    · rintro ⟨middle, impossible, _⟩
      cases impossible
  | ok middle =>
    constructor
    · intro done
      exact ⟨middle, rfl, done⟩
    · rintro ⟨same, found, done⟩
      cases found
      exact done

/-- A sequence fails exactly if its first part does, or what follows does with
the result. -/
theorem bind_eq_error_iff {first : Except ε α} {behind : α -> Except ε β} {cause : ε} :
    (first >>= behind) = .error cause ↔
      first = .error cause ∨ ∃ middle, first = .ok middle ∧ behind middle = .error cause := by
  cases first with
  | error other =>
    constructor
    · intro failed
      cases failed
      exact .inl rfl
    · rintro (failed | ⟨middle, impossible, _⟩)
      · cases failed
        rfl
      · cases impossible
  | ok middle =>
    constructor
    · intro failed
      exact .inr ⟨middle, rfl, failed⟩
    · rintro (impossible | ⟨same, found, failed⟩)
      · cases impossible
      · cases found
        exact failed

/-- Naming the cause of a failure differently does not make it a success. -/
theorem mapError_eq_ok_iff {outcome : Except ε α} {name : ε -> δ} {result : α} :
    outcome.mapError name = .ok result ↔ outcome = .ok result := by
  cases outcome with
  | error cause => exact ⟨nofun, nofun⟩
  | ok value => exact ⟨fun done => by cases done; rfl, fun done => by cases done; rfl⟩

end FlashSlots
