import HostValue.DeepCopy

/-!
# Computations that make handles

What a computation that takes new handles from a supply does when it is run: its parts run one after
the other, each from the supply that the one before it left.
-/

namespace HostValue.Fresh

variable {α β : Type}

@[simp] theorem run_throw (error : ValueError) (supply : Nat) :
    (throw error : Fresh α) supply = .error error :=
  rfl

@[simp] theorem run_host (payload : Payload) (supply : Nat) :
    payload.host supply = .ok (.hosted supply payload, supply + 1) :=
  rfl

@[simp] theorem run_ofExcept_ok (value : α) (supply : Nat) :
    ofExcept (.ok value) supply = .ok (value, supply) :=
  rfl

@[simp] theorem run_ofExcept_error (error : ValueError) (supply : Nat) :
    ofExcept (.error error : Except ValueError α) supply = .error error :=
  rfl

theorem ofExcept_ok_bind (value : α) (next : α → Fresh β) :
    ofExcept (.ok value) >>= next = next value :=
  rfl

theorem run_bind_ok {run : Fresh α} {next : α → Fresh β} {supply middle : Nat} {value : α}
    (first : run supply = .ok (value, middle)) : (run >>= next) supply = next value middle := by
  change run supply >>= (fun made => next made.1 made.2) = _
  rw [first]
  rfl

theorem run_bind_error {run : Fresh α} {next : α → Fresh β} {supply : Nat} {error : ValueError}
    (failed : run supply = .error error) : (run >>= next) supply = .error error := by
  change run supply >>= (fun made => next made.1 made.2) = _
  rw [failed]
  rfl

theorem run_bind_eq_ok_iff {run : Fresh α} {next : α → Fresh β} {supply last : Nat} {result : β} :
    (run >>= next) supply = .ok (result, last) ↔
      ∃ value middle, run supply = .ok (value, middle) ∧
        next value middle = .ok (result, last) := by
  cases first : run supply with
  | error error =>
      rw [run_bind_error first]
      simp
  | ok made =>
      obtain ⟨value, middle⟩ := made
      rw [run_bind_ok first]
      constructor
      · intro continued
        exact ⟨value, middle, rfl, continued⟩
      · rintro ⟨_, _, same, continued⟩
        cases same
        exact continued

theorem run_ofExcept_bind_eq_ok_iff {outcome : Except ValueError α} {next : α → Fresh β}
    {supply last : Nat} {result : β} :
    (ofExcept outcome >>= next) supply = .ok (result, last) ↔
      ∃ value, outcome = .ok value ∧ next value supply = .ok (result, last) := by
  cases outcome with
  | error error =>
      rw [run_bind_error (run_ofExcept_error error supply)]
      simp
  | ok value =>
      rw [run_bind_ok (run_ofExcept_ok value supply)]
      simp

end HostValue.Fresh
