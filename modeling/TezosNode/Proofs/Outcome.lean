namespace TezosNode

variable {ε ε' α β : Type}

theorem bind_ok {first : Except ε α} {next : α → Except ε β} {b : β} (done : first >>= next = .ok b) :
    ∃ a, first = .ok a ∧ next a = .ok b := by
  cases first with
  | error fault => cases done
  | ok a => exact ⟨a, rfl, done⟩

theorem bind_error {first : Except ε α} {next : α → Except ε β} {fault : ε}
    (refused : first >>= next = .error fault) :
    first = .error fault ∨ ∃ a, first = .ok a ∧ next a = .error fault := by
  cases first with
  | error m =>
    cases refused
    exact .inl rfl
  | ok a => exact .inr ⟨a, rfl, refused⟩

theorem map_ok {result : Except ε α} {f : α → β} {b : β} (done : result.map f = .ok b) :
    ∃ a, result = .ok a ∧ f a = b := by
  cases result with
  | error fault => cases done
  | ok a => exact ⟨a, rfl, Except.ok.inj done⟩

theorem map_error {result : Except ε α} {f : α → β} {fault : ε} (refused : result.map f = .error fault) :
    result = .error fault := by
  cases result with
  | error found =>
    cases refused
    rfl
  | ok a => cases refused

theorem mapError_ok {result : Except ε α} {named : ε → ε'} {a : α} (done : result.mapError named = .ok a) :
    result = .ok a := by
  cases result with
  | error fault => cases done
  | ok b => rw [Except.ok.inj done]

theorem mapError_error {result : Except ε α} {named : ε → ε'} {fault : ε'}
    (refused : result.mapError named = .error fault) : ∃ m, result = .error m ∧ fault = named m := by
  cases result with
  | error m =>
    cases refused
    exact ⟨m, rfl, rfl⟩
  | ok a => cases refused

end TezosNode
