import JqBle.Library.Execution

/-!
# Histories of a machine

The items that the steps of an execution put in or take out, read off the state before each step, in
order. Where a step moves items through the state in order, what came in is what went out followed by
what is still held.
-/

namespace JqBle.Library.Execution

section History
variable {σ ι : Type*} {ε : Type*} (step : σ → ι → σ)

def history (out : σ → ι → List ε) : σ → List ι → List ε
  | _, [] => []
  | state, input :: rest => out state input ++ history out (step state input) rest

variable {step} {out entered left : σ → ι → List ε} {initial : σ}

theorem history_append {before after : List ι} :
    history step out initial (before ++ after) =
      history step out initial before ++ history step out (exec step initial before) after := by
  induction before generalizing initial with
  | nil => rfl
  | cons first rest ih => simp [history, ih]

theorem history_snoc {before : List ι} {input : ι} :
    history step out initial (before ++ [input]) =
      history step out initial before ++ out (exec step initial before) input := by
  rw [history_append]
  simp [history]

theorem map_history {δ : Type*} (change : ε → δ) (inputs : List ι) :
    (history step out initial inputs).map change =
      history step (fun state input => (out state input).map change) initial inputs := by
  induction inputs generalizing initial with
  | nil => rfl
  | cons first rest ih => simp [history, ih]

theorem filterMap_history {δ : Type*} (change : ε → Option δ) (inputs : List ι) :
    (history step out initial inputs).filterMap change =
      history step (fun state input => (out state input).filterMap change) initial inputs := by
  induction inputs generalizing initial with
  | nil => rfl
  | cons first rest ih => simp [history, ih]

theorem filter_history (keep : ε → Bool) (inputs : List ι) :
    (history step out initial inputs).filter keep =
      history step (fun state input => (out state input).filter keep) initial inputs := by
  induction inputs generalizing initial with
  | nil => rfl
  | cons first rest ih => simp [history, ih]

/-- First in, first out: if every step takes items off the front and puts items at the back, then so
does the whole execution. -/
theorem history_fifo (held : σ → List ε) {P : σ → Prop} (start : P initial)
    (preserved : ∀ state input, P state → P (step state input))
    (moves : ∀ state input, P state →
      held state ++ entered state input = left state input ++ held (step state input))
    (inputs : List ι) :
    held initial ++ history step entered initial inputs =
      history step left initial inputs ++ held (exec step initial inputs) := by
  induction inputs using List.reverseRecOn with
  | nil => simp [history]
  | append_singleton before input ih =>
      have holds := exec_always start preserved before
      have last := moves (exec step initial before) input holds
      calc held initial ++ history step entered initial (before ++ [input])
          = held initial ++ history step entered initial before ++
              entered (exec step initial before) input := by rw [history_snoc, List.append_assoc]
        _ = history step left initial before ++ (held (exec step initial before) ++
              entered (exec step initial before) input) := by rw [ih, List.append_assoc]
        _ = _ := by rw [last, history_snoc, exec_snoc, List.append_assoc]

/-- Where a step may lose items, what is left is in order still. -/
theorem history_sublist (held : σ → List ε) {P : σ → Prop} (start : P initial)
    (preserved : ∀ state input, P state → P (step state input))
    (moves : ∀ state input, P state →
      (left state input ++ held (step state input)).Sublist (held state ++ entered state input))
    (inputs : List ι) :
    (history step left initial inputs ++ held (exec step initial inputs)).Sublist
      (held initial ++ history step entered initial inputs) := by
  induction inputs using List.reverseRecOn with
  | nil => simp [history]
  | append_singleton before input ih =>
      have holds := exec_always start preserved before
      have last := moves (exec step initial before) input holds
      rw [history_snoc, history_snoc, exec_snoc, List.append_assoc, ← List.append_assoc (held initial)]
      apply (last.append_left (history step left initial before)).trans
      rw [← List.append_assoc]
      exact ih.append_right _

/-- First in, first out along an execution whose steps are all allowed. -/
theorem history_fifo_of_meets {allowed : σ → ι → Prop} (held : σ → List ε) {P : σ → Prop}
    (start : P initial) (preserved : ∀ state input, P state → P (step state input))
    (moves : ∀ state input, P state → allowed state input →
      held state ++ entered state input = left state input ++ held (step state input))
    {inputs : List ι} (meets : Meets step allowed initial inputs) :
    held initial ++ history step entered initial inputs =
      history step left initial inputs ++ held (exec step initial inputs) := by
  induction inputs using List.reverseRecOn with
  | nil => simp [history]
  | append_singleton before input ih =>
      obtain ⟨earlier, allows⟩ := meets_snoc.mp meets
      have last := moves _ input (exec_always start preserved before) allows
      rw [history_snoc, history_snoc, exec_snoc, ← List.append_assoc, ih earlier, List.append_assoc,
        last, List.append_assoc]

/-- What every step only adds to is what was there followed by everything added. -/
theorem history_of_grows (grown : σ → List ε) {P : σ → Prop} (start : P initial)
    (preserved : ∀ state input, P state → P (step state input))
    (grows : ∀ state input, P state → grown (step state input) = grown state ++ out state input)
    (inputs : List ι) :
    grown (exec step initial inputs) = grown initial ++ history step out initial inputs := by
  induction inputs using List.reverseRecOn with
  | nil => simp [history]
  | append_singleton before input ih =>
      have last := grows _ input (exec_always start preserved before)
      rw [exec_snoc, last, ih, history_snoc, List.append_assoc]

/-- If every step pays for the items it puts out from a budget, there are no more of them than the
budget allows. -/
theorem history_length_le {δ : Type*} {granted : σ → ι → List δ} (budget : σ → Nat) (rate : Nat)
    {P : σ → Prop} (start : P initial) (preserved : ∀ state input, P state → P (step state input))
    (pays : ∀ state input, P state →
      (out state input).length + budget (step state input) ≤
        budget state + rate * (granted state input).length)
    (inputs : List ι) :
    (history step out initial inputs).length + budget (exec step initial inputs) ≤
      budget initial + rate * (history step granted initial inputs).length := by
  induction inputs using List.reverseRecOn with
  | nil => simp [history]
  | append_singleton before input ih =>
      have last := pays _ input (exec_always start preserved before)
      rw [history_snoc, history_snoc, exec_snoc, List.length_append, List.length_append, Nat.mul_add]
      omega

theorem history_length_le_budget (budget : σ → Nat) {P : σ → Prop} (start : P initial)
    (preserved : ∀ state input, P state → P (step state input))
    (pays : ∀ state input, P state →
      (out state input).length + budget (step state input) ≤ budget state) (inputs : List ι) :
    (history step out initial inputs).length ≤ budget initial := by
  have paid : (history step out initial inputs).length + budget (exec step initial inputs) ≤
      budget initial + 0 * (history step out initial inputs).length :=
    history_length_le budget 0 start preserved
      (fun state input holds => by simpa using pays state input holds) inputs
  omega

/-- If every step keeps what it takes in or gives it back, then so does the whole execution. -/
theorem history_conserves {δ : Type*} {given : σ → ι → List δ} (counted : ε → Bool)
    (returned : δ → Bool) (held : σ → Nat) {P : σ → Prop} (start : P initial)
    (preserved : ∀ state input, P state → P (step state input))
    (keeps : ∀ state input, P state →
      held state + (entered state input).countP counted =
        held (step state input) + (given state input).countP returned)
    (inputs : List ι) :
    held initial + (history step entered initial inputs).countP counted =
      held (exec step initial inputs) + (history step given initial inputs).countP returned := by
  induction inputs using List.reverseRecOn with
  | nil => rfl
  | append_singleton before input ih =>
      have last := keeps _ input (exec_always start preserved before)
      rw [history_snoc, history_snoc, exec_snoc, List.countP_append, List.countP_append]
      omega

end History

section Simulation
variable {σ τ ι κ : Type*} {step : σ → ι → σ} {abstractStep : τ → κ → τ} {view : σ → τ}
  {inputOf : σ → ι → List κ} {initial : σ}

/-- Every step of a machine is, seen through `view`, some steps of an abstract one. Then so is every
execution. -/
theorem history_simulates {P : σ → Prop} (start : P initial)
    (preserved : ∀ state input, P state → P (step state input))
    (simulates : ∀ state input, P state →
      exec abstractStep (view state) (inputOf state input) = view (step state input))
    (inputs : List ι) :
    exec abstractStep (view initial) (history step inputOf initial inputs) =
      view (exec step initial inputs) := by
  induction inputs using List.reverseRecOn with
  | nil => rfl
  | append_singleton before input ih =>
      rw [history_snoc, exec_append, ih, exec_snoc]
      exact simulates _ input (exec_always start preserved before)

/-- The items of the machine are then those of the abstract one. -/
theorem history_of_simulates {ε : Type*} {out : σ → ι → List ε} {abstractOut : τ → κ → List ε}
    {P : σ → Prop} (start : P initial)
    (preserved : ∀ state input, P state → P (step state input))
    (simulates : ∀ state input, P state →
      exec abstractStep (view state) (inputOf state input) = view (step state input))
    (same : ∀ state input, P state →
      history abstractStep abstractOut (view state) (inputOf state input) = out state input)
    (inputs : List ι) :
    history abstractStep abstractOut (view initial) (history step inputOf initial inputs) =
      history step out initial inputs := by
  induction inputs using List.reverseRecOn with
  | nil => rfl
  | append_singleton before input ih =>
      rw [history_snoc, history_append, ih, history_simulates start preserved simulates, history_snoc]
      rw [same _ input (exec_always start preserved before)]

end Simulation

end JqBle.Library.Execution
