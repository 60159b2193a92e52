namespace LogSieve

variable {ε φ α β : Type}

-- Where a chain of attempts succeeds, its first one does, and the others behind that.
theorem exists_of_bind {first : Except ε α} {others : α → Except ε β} {result : β}
    (h : first >>= others = .ok result) :
    ∃ found, first = .ok found ∧ others found = .ok result := by
  cases first with
  | error fault => cases h
  | ok found => exact ⟨found, rfl, h⟩

theorem exists_of_map {attempt : Except ε α} {f : α → β} {result : β}
    (h : attempt.map f = .ok result) : ∃ found, attempt = .ok found ∧ f found = result := by
  cases attempt with
  | error fault => cases h
  | ok found => exact ⟨found, rfl, Except.ok.inj h⟩

theorem eq_of_mapError {attempt : Except ε α} {f : ε → φ} {result : α}
    (h : attempt.mapError f = .ok result) : attempt = .ok result := by
  cases attempt with
  | error fault => cases h
  | ok found => rw [Except.ok.inj h]

end LogSieve
