import ShaderShrink.Proofs.Files.Frame

/-!
# Actions side by side

Two actions run alongside each other if both end with values that belong together or both with the same fault, in
states that belong together.  Sequences and attempts of such actions run alongside each other as well.  An action on
files runs alongside itself in trees that agree on what its path visits.
-/

namespace ShaderShrink

namespace Effect

variable {σ τ ε α β γ δ : Type}

/-- Whether two results belong together: both are values that do, or both are the same fault, and so do the states that
they come with. -/
inductive Alongside (same : α → β → Prop) (beside : σ → τ → Prop) :
    EStateM.Result ε σ α → EStateM.Result ε τ β → Prop
  | ok {value : α} {value' : β} {left : σ} {left' : τ} : same value value' → beside left left' →
      Alongside same beside (.ok value left) (.ok value' left')
  | error {left : σ} {left' : τ} (fault : ε) : beside left left' →
      Alongside same beside (.error fault left) (.error fault left')

namespace Alongside

variable {same : α → β → Prop} {same' : γ → δ → Prop} {beside further : σ → τ → Prop}
  {result : EStateM.Result ε σ α} {result' : EStateM.Result ε τ β}

theorem mono {wider : α → β → Prop} (alongside : Alongside same beside result result')
    (values : ∀ value value', same value value' → wider value value')
    (states : ∀ left left', beside left left' → further left left') : Alongside wider further result result' := by
  cases alongside with
  | ok related near => exact .ok (values _ _ related) (states _ _ near)
  | error fault near => exact .error fault (states _ _ near)

/-- The states that are left belong together. -/
theorem leaves (alongside : Alongside same beside result result') :
    beside (Effect.leaves result) (Effect.leaves result') := by
  cases alongside with
  | ok _ near | error _ near => exact near

theorem ok_ok {value : α} {value' : β} {left : σ} {left' : τ}
    (alongside : Alongside same beside (.ok value left : EStateM.Result ε σ α) (.ok value' left')) :
    same value value' ∧ beside left left' := by
  cases alongside with
  | ok related near => exact ⟨related, near⟩

/-- Where one of two actions ends with a value, the other one does. -/
theorem exists_ok {value : α} {left : σ} (alongside : Alongside same beside (.ok value left) result') :
    ∃ value' left', result' = .ok value' left' ∧ same value value' ∧ beside left left' := by
  cases alongside with
  | ok related near => exact ⟨_, _, rfl, related, near⟩

variable {action : EStateM ε σ α} {action' : EStateM ε τ β} {state : σ} {state' : τ}

/-- Sequences run alongside each other if their first actions do, and what follows does from there on. -/
theorem bind {next : α → EStateM ε σ γ} {next' : β → EStateM ε τ δ}
    (first : Alongside same beside (action state) (action' state'))
    (weaken : ∀ left left', beside left left' → further left left')
    (rest : ∀ value value' left left', same value value' → beside left left' →
      Alongside same' further (next value left) (next' value' left')) :
    Alongside same' further ((action >>= next) state) ((action' >>= next') state') := by
  generalize run : action state = result, run' : action' state' = result' at first
  cases first with
  | ok related near =>
    rw [bind_of_ok run, bind_of_ok run']
    exact rest _ _ _ _ related near
  | error fault near =>
    rw [bind_of_error run, bind_of_error run']
    exact .error fault (weaken _ _ near)

/-- Attempts run alongside each other if the actions do, and so do the handlers. -/
theorem attempt {handle : ε → EStateM ε σ α} {handle' : ε → EStateM ε τ β}
    (first : Alongside same beside (action state) (action' state'))
    (weaken : ∀ left left', beside left left' → further left left')
    (rest : ∀ fault left left', beside left left' →
      Alongside same further (handle fault left) (handle' fault left')) :
    Alongside same further ((tryCatch action handle) state) ((tryCatch action' handle') state') := by
  generalize run : action state = result, run' : action' state' = result' at first
  cases first with
  | ok related near =>
    rw [try_of_ok run, try_of_ok run']
    exact .ok related (weaken _ _ near)
  | error fault near =>
    rw [try_of_error run, try_of_error run']
    exact rest _ _ _ near

end Alongside

end Effect

open Effect

variable {σ : Type}

/-! ## Files -/

namespace FileTree

variable {a b : FileTree} {path : Path}

/-- Whether and why a file cannot be written depends only on what its path visits. -/
theorem AgreeOn.write_error_iff (agree : AgreeOn (· ∈ path.visited) a b) (content : ByteArray) (failure : SystemFailure) :
    a.write path content = .error failure ↔ b.write path content = .error failure := by
  unfold write
  rw [agree.locate]
  cases located : b.locate path with
  | error reason => rfl
  | ok place =>
    obtain ⟨rfl, -⟩ := locate_ok located
    simp only [bind, Except.bind, agree path.place path.place_mem_visited]
    split <;> simp

/-- Whether and why a file cannot be removed depends only on what its path visits. -/
theorem AgreeOn.remove_error_iff (agree : AgreeOn (· ∈ path.visited) a b) (failure : SystemFailure) :
    a.remove path = .error failure ↔ b.remove path = .error failure := by
  unfold remove
  rw [agree.locate]
  cases located : b.locate path with
  | error reason => cases reason <;> simp
  | ok place =>
    obtain ⟨rfl, -⟩ := locate_ok located
    dsimp only
    rw [agree path.place path.place_mem_visited]
    split <;> simp

/-- Where a file was removed, the same is left in trees that agree. -/
theorem AgreeOn.lookup?_remove_self {left left' : FileTree} (agree : AgreeOn (· ∈ path.visited) a b)
    (removed : a.remove path = .ok left) (removed' : b.remove path = .ok left') :
    left.lookup? path.place = left'.lookup? path.place := by
  have same := agree path.place path.place_mem_visited
  unfold remove at removed removed'
  rw [agree.locate] at removed
  cases located : b.locate path with
  | error reason =>
    rw [located] at removed removed'
    cases reason <;> cases removed
    cases removed'
    exact same
  | ok place =>
    obtain ⟨rfl, -⟩ := locate_ok located
    rw [located] at removed removed'
    dsimp only at removed removed'
    rw [same] at removed
    split at removed
    · rename_i none
      rw [none] at removed'
      cases removed
      cases removed'
      exact same
    · cases removed
    · rename_i file
      rw [file] at removed'
      have inside : path.place ≠ [] := place_ne_nil_of_free (by rw [file]; exact nofun)
      cases removed
      cases removed'
      rw [lookup?_erase_self a inside, lookup?_erase_self b inside]

end FileTree

namespace Action

variable {beside : World σ → World σ → Prop} {path : Path} {a b : World σ}

/-- What changes the files of two worlds, or neither of them, runs in the one alongside the other. -/
theorem changeFiles_alongside {edit : FileTree → Except SystemFailure FileTree}
    (alike : ∀ failure, edit a.files = .error failure ↔ edit b.files = .error failure) (still : beside a b)
    (changed : ∀ tree tree', edit a.files = .ok tree → edit b.files = .ok tree' →
      beside { a with files := tree } { b with files := tree' }) :
    Alongside Eq beside (changeFiles path edit a) (changeFiles path edit b) := by
  rw [changeFiles_apply, changeFiles_apply]
  cases first : edit a.files with
  | error failure =>
    rw [(alike failure).mp first]
    exact .error _ still
  | ok tree =>
    cases second : edit b.files with
    | error failure => cases first.symm.trans ((alike failure).mpr second)
    | ok tree' => exact .ok rfl (changed tree tree' first second)

theorem readBytes_alongside (agree : FileTree.AgreeOn (· ∈ path.visited) a.files b.files) (still : beside a b) :
    Alongside Eq beside (readBytes path a) (readBytes path b) := by
  rw [readBytes_apply, readBytes_apply, agree.read]
  split
  · exact .ok rfl still
  · exact .error _ still

theorem writeBytes_alongside {content : ByteArray} (agree : FileTree.AgreeOn (· ∈ path.visited) a.files b.files)
    (still : beside a b)
    (changed : ∀ tree tree', a.files.write path content = .ok tree → b.files.write path content = .ok tree' →
      beside { a with files := tree } { b with files := tree' }) :
    Alongside Eq beside (writeBytes path content a) (writeBytes path content b) :=
  changeFiles_alongside (agree.write_error_iff content) still changed

theorem remove_alongside (agree : FileTree.AgreeOn (· ∈ path.visited) a.files b.files) (still : beside a b)
    (changed : ∀ tree tree', a.files.remove path = .ok tree → b.files.remove path = .ok tree' →
      beside { a with files := tree } { b with files := tree' }) :
    Alongside Eq beside (remove path a) (remove path b) :=
  changeFiles_alongside agree.remove_error_iff still changed

end Action

end ShaderShrink
