import ShaderShrink.Files.World

/-!
# Effects

An action ends with a value or with a fault, and in both cases leaves a state behind.  What holds
between the states before and after a sequence of actions follows from what holds for each of them,
as long as the relation is reflexive and transitive.
-/

namespace ShaderShrink.Effect

variable {σ ε α β : Type}

/-- The state that a result comes with. -/
def leaves : EStateM.Result ε σ α → σ
  | .ok _ left => left
  | .error _ left => left

/-- The state that an action leaves behind. -/
def after (action : EStateM ε σ α) (state : σ) : σ := leaves (action state)

theorem after_ok {action : EStateM ε σ α} {state left : σ} {value : α}
    (success : action state = .ok value left) : after action state = left := by
  rw [after, success, leaves]

theorem after_error {action : EStateM ε σ α} {state left : σ} {fault : ε}
    (failed : action state = .error fault left) : after action state = left := by
  rw [after, failed, leaves]

/-- Whether a result is a value. -/
def succeeds : EStateM.Result ε σ α → Bool
  | .ok _ _ => true
  | .error _ _ => false

theorem exists_of_succeeds {result : EStateM.Result ε σ α} (success : succeeds result = true) :
    ∃ value left, result = .ok value left := by
  cases result with
  | ok value left => exact ⟨value, left, rfl⟩
  | error fault left => cases success

/-- A result whose state was changed afterwards. -/
def adjust (change : σ → σ) : EStateM.Result ε σ α → EStateM.Result ε σ α
  | .ok value left => .ok value (change left)
  | .error fault left => .error fault (change left)

theorem leaves_adjust (change : σ → σ) (result : EStateM.Result ε σ α) :
    leaves (adjust change result) = change (leaves result) := by
  cases result <;> rfl

/-- What follows an action that ends with a value. -/
theorem bind_of_ok {action : EStateM ε σ α} {state middle : σ} {value : α}
    (success : action state = .ok value middle) (next : α → EStateM ε σ β) :
    (action >>= next) state = next value middle := by
  simp only [bind, EStateM.bind, success]

/-- Nothing follows an action that ends with a fault. -/
theorem bind_of_error {action : EStateM ε σ α} {state left : σ} {fault : ε}
    (failed : action state = .error fault left) (next : α → EStateM ε σ β) :
    (action >>= next) state = .error fault left := by
  simp only [bind, EStateM.bind, failed]

/-- A sequence that ends with a value passes through the value of its first action. -/
theorem bind_ok {action : EStateM ε σ α} {next : α → EStateM ε σ β} {state left : σ} {value : β}
    (success : (action >>= next) state = .ok value left) :
    ∃ first middle, action state = .ok first middle ∧ next first middle = .ok value left := by
  cases run : action state with
  | ok first middle => exact ⟨first, middle, rfl, by rwa [bind_of_ok run] at success⟩
  | error fault middle => rw [bind_of_error run] at success; contradiction

/-- The same for a first action that leaves the state as it is. -/
theorem bind_ok_still {action : EStateM ε σ α} {next : α → EStateM ε σ β} {state left : σ} {value : β}
    (still : after action state = state) (success : (action >>= next) state = .ok value left) :
    ∃ first, action state = .ok first state ∧ next first state = .ok value left := by
  obtain ⟨first, middle, run, rest⟩ := bind_ok success
  have same : middle = state := (after_ok run).symm.trans still
  exact ⟨first, same ▸ run, same ▸ rest⟩

/-- A sequence that ends with a fault has it from its first action or from what follows. -/
theorem bind_error {action : EStateM ε σ α} {next : α → EStateM ε σ β} {state left : σ} {fault : ε}
    (failed : (action >>= next) state = .error fault left) :
    action state = .error fault left ∨
      ∃ first middle, action state = .ok first middle ∧ next first middle = .error fault left := by
  cases run : action state with
  | ok first middle => exact .inr ⟨first, middle, rfl, by rwa [bind_of_ok run] at failed⟩
  | error other middle =>
    rw [bind_of_error run] at failed
    cases failed
    exact .inl rfl

@[simp] theorem pure_apply (value : α) (state : σ) :
    (pure value : EStateM ε σ α) state = .ok value state := rfl

@[simp] theorem throw_apply (fault : ε) (state : σ) :
    (throw fault : EStateM ε σ α) state = .error fault state := rfl

@[simp] theorem get_apply (state : σ) : (get : EStateM ε σ σ) state = .ok state state := rfl

@[simp] theorem modify_apply (update : σ → σ) (state : σ) :
    (modify update : EStateM ε σ PUnit) state = .ok ⟨⟩ (update state) := rfl

/-- An attempt that ends with a value is as the action itself. -/
theorem try_of_ok {action : EStateM ε σ α} {state left : σ} {value : α}
    (success : action state = .ok value left) (handle : ε → EStateM ε σ α) :
    (tryCatch action handle) state = .ok value left := by
  change EStateM.tryCatch action handle state = _
  delta EStateM.tryCatch
  simp only [success]

/-- An attempt that ends with a fault goes on with its handler, in the state that was left. -/
theorem try_of_error {action : EStateM ε σ α} {state left : σ} {fault : ε}
    (failed : action state = .error fault left) (handle : ε → EStateM ε σ α) :
    (tryCatch action handle) state = handle fault left := by
  change EStateM.tryCatch action handle state = _
  delta EStateM.tryCatch
  simp only [failed]
  rfl

section Relations

variable {relation : σ → σ → Prop}

/-- A relation holds across a sequence if it holds across its first action and across what follows. -/
theorem after_bind (trans : ∀ {a b c}, relation a b → relation b c → relation a c)
    {action : EStateM ε σ α} {next : α → EStateM ε σ β} {state : σ}
    (first : relation state (after action state))
    (rest : ∀ value middle, action state = .ok value middle → relation state middle →
      relation middle (after (next value) middle)) :
    relation state (after (action >>= next) state) := by
  cases run : action state with
  | ok value middle =>
    rw [after_ok run] at first
    have whole := trans first (rest value middle run first)
    simpa only [after, bind_of_ok run] using whole
  | error fault left =>
    rw [after_error run] at first
    rwa [after_error (bind_of_error run next)]

/-- A relation holds across an attempt if it holds across the action and across the handler. -/
theorem after_try (trans : ∀ {a b c}, relation a b → relation b c → relation a c)
    {action : EStateM ε σ α} {handle : ε → EStateM ε σ α} {state : σ}
    (first : relation state (after action state))
    (rest : ∀ fault left, action state = .error fault left → relation state left →
      relation left (after (handle fault) left)) :
    relation state (after (tryCatch action handle) state) := by
  cases run : action state with
  | ok value left => rwa [after_ok (try_of_ok run handle), ← after_ok run]
  | error fault left =>
    rw [after_error run] at first
    have whole := trans first (rest fault left run first)
    simpa only [after, try_of_error run] using whole

end Relations

end ShaderShrink.Effect
