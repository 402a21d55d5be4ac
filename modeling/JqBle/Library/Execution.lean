import Mathlib.Data.List.Basic
import Mathlib.Data.List.Induction

/-!
# Executions of a deterministic machine

A machine is a step function on states and inputs. The rules here say what holds along a list of
inputs when every single step preserves it, and give the past-time operator "since" with the
equation that advances it by one input.
-/

namespace JqBle.Library

/-! ## Two parties -/

inductive Side
  | left
  | right
deriving DecidableEq, Repr

namespace Side

def other : Side → Side
  | .left => .right
  | .right => .left

@[simp] theorem other_other (side : Side) : side.other.other = side := by
  cases side <;> rfl

theorem other_ne (side : Side) : side.other ≠ side := by
  cases side <;> decide

theorem eq_or_other (side another : Side) : another = side ∨ another = side.other := by
  cases side <;> cases another <;> decide

end Side

namespace Execution

section Exec
variable {σ ι : Type*} (step : σ → ι → σ)

def exec (initial : σ) (inputs : List ι) : σ := inputs.foldl step initial

@[simp] theorem exec_nil (initial : σ) : exec step initial [] = initial := rfl

@[simp] theorem exec_cons (initial : σ) (input : ι) (rest : List ι) :
    exec step initial (input :: rest) = exec step (step initial input) rest := rfl

theorem exec_append (initial : σ) (before after : List ι) :
    exec step initial (before ++ after) = exec step (exec step initial before) after :=
  List.foldl_append

@[simp] theorem exec_snoc (initial : σ) (before : List ι) (input : ι) :
    exec step initial (before ++ [input]) = step (exec step initial before) input := by
  rw [exec_append]
  rfl

/-- Every step of the execution meets `allowed` in the state it is taken from. -/
def Meets (allowed : σ → ι → Prop) : σ → List ι → Prop
  | _, [] => True
  | state, input :: rest => allowed state input ∧ Meets allowed (step state input) rest

instance (allowed : σ → ι → Prop) [∀ state input, Decidable (allowed state input)] :
    (initial : σ) → (inputs : List ι) → Decidable (Meets step allowed initial inputs)
  | _, [] => inferInstanceAs (Decidable True)
  | state, input :: rest =>
      have := instDecidableMeets allowed (step state input) rest
      inferInstanceAs (Decidable (allowed state input ∧ Meets step allowed (step state input) rest))

variable {step} {allowed : σ → ι → Prop}

theorem meets_append {initial : σ} {before after : List ι} :
    Meets step allowed initial (before ++ after) ↔
      Meets step allowed initial before ∧ Meets step allowed (exec step initial before) after := by
  induction before generalizing initial with
  | nil => simp [Meets]
  | cons input rest ih => simp [Meets, ih, and_assoc]

theorem meets_snoc {initial : σ} {before : List ι} {input : ι} :
    Meets step allowed initial (before ++ [input]) ↔
      Meets step allowed initial before ∧ allowed (exec step initial before) input := by
  rw [meets_append]
  simp [Meets]

theorem Meets.of_prefix {initial : σ} {before inputs : List ι}
    (meets : Meets step allowed initial inputs) (initially : before <+: inputs) :
    Meets step allowed initial before := by
  obtain ⟨after, rfl⟩ := initially
  exact (meets_append.mp meets).1

theorem Meets.imp {weaker : σ → ι → Prop} {initial : σ} {inputs : List ι}
    (meets : Meets step allowed initial inputs)
    (implies : ∀ state input, allowed state input → weaker state input) :
    Meets step weaker initial inputs := by
  induction inputs generalizing initial with
  | nil => trivial
  | cons input rest ih => exact ⟨implies _ _ meets.1, ih meets.2⟩

theorem Meets.and {also : σ → ι → Prop} {initial : σ} {inputs : List ι}
    (first : Meets step allowed initial inputs) (second : Meets step also initial inputs) :
    Meets step (fun state input => allowed state input ∧ also state input) initial inputs := by
  induction inputs generalizing initial with
  | nil => trivial
  | cons input rest ih => exact ⟨⟨first.1, second.1⟩, ih first.2 second.2⟩

theorem meets_of_forall {initial : σ} {inputs : List ι}
    (every : ∀ input ∈ inputs, ∀ state, allowed state input) : Meets step allowed initial inputs := by
  induction inputs generalizing initial with
  | nil => trivial
  | cons input rest ih =>
      exact ⟨every input (by simp) initial, ih fun later member => every later (by simp [member])⟩

/-- Induction along an execution: what holds of the inputs handled so far is carried over every
allowed input. -/
theorem meets_induction {P : List ι → Prop} {initial : σ} (start : P [])
    (preserved : ∀ before input, P before → allowed (exec step initial before) input →
      P (before ++ [input]))
    {inputs : List ι} (meets : Meets step allowed initial inputs) : P inputs := by
  induction inputs using List.reverseRecOn with
  | nil => exact start
  | append_singleton before input ih =>
      obtain ⟨earlier, last⟩ := meets_snoc.mp meets
      exact preserved before input (ih earlier) last

theorem exec_invariant {P : σ → Prop} {initial : σ} (start : P initial)
    (preserved : ∀ state input, P state → allowed state input → P (step state input))
    {inputs : List ι} (meets : Meets step allowed initial inputs) :
    P (exec step initial inputs) := by
  refine meets_induction (P := fun inputs => P (exec step initial inputs)) start ?_ meets
  intro before input holds last
  rw [exec_snoc]
  exact preserved _ input holds last

theorem exec_always {P : σ → Prop} {initial : σ} (start : P initial)
    (preserved : ∀ state input, P state → P (step state input)) (inputs : List ι) :
    P (exec step initial inputs) := by
  induction inputs using List.reverseRecOn with
  | nil => exact start
  | append_singleton before input ih =>
      rw [exec_snoc]
      exact preserved _ input ih

/-- If a property of the inputs so far is carried over an input exactly when the input is allowed, it
holds all along an execution exactly when every step is allowed. -/
theorem meets_iff_forall_prefix {P : List ι → Prop} {initial : σ} (start : P [])
    (carried : ∀ before input, Meets step allowed initial before → P before →
      (P (before ++ [input]) ↔ allowed (exec step initial before) input))
    {inputs : List ι} :
    Meets step allowed initial inputs ↔ ∀ before, before <+: inputs → P before := by
  induction inputs using List.reverseRecOn with
  | nil =>
      refine ⟨?_, fun _ => trivial⟩
      intro _ before initially
      rw [List.prefix_nil.mp initially]
      exact start
  | append_singleton earlier last ih =>
      rw [meets_snoc]
      constructor
      · rintro ⟨meets, allows⟩ before initially
        have holds := ih.mp meets
        rcases List.prefix_concat_iff.mp initially with rfl | initially
        · exact (carried earlier last meets (holds earlier List.prefix_rfl)).mpr allows
        · exact holds before initially
      · intro holds
        have meets := ih.mpr fun before initially =>
          holds before (initially.trans (List.prefix_append ..))
        have before := holds earlier (List.prefix_append ..)
        exact ⟨meets, (carried earlier last meets before).mp (holds _ List.prefix_rfl)⟩

/-- What the states after each step put out, in order. -/
def trace {ε : Type*} (step : σ → ι → σ) (out : σ → List ε) : σ → List ι → List ε
  | _, [] => []
  | state, input :: rest => out (step state input) ++ trace step out (step state input) rest

theorem trace_append {ε : Type*} {out : σ → List ε} {initial : σ} {before after : List ι} :
    trace step out initial (before ++ after) =
      trace step out initial before ++ trace step out (exec step initial before) after := by
  induction before generalizing initial with
  | nil => rfl
  | cons first rest ih => simp [trace, ih]

theorem trace_snoc {ε : Type*} {out : σ → List ε} {initial : σ} {before : List ι} {input : ι} :
    trace step out initial (before ++ [input]) =
      trace step out initial before ++ out (step (exec step initial before) input) := by
  rw [trace_append]
  simp [trace]

end Exec

section Enabled
variable {σ ι : Type*} (next : σ → ι → Option σ)

/-- The step of a machine that takes an input only when it is enabled and stays where it is else. -/
def attempt (state : σ) (input : ι) : σ := (next state input).getD state

def Stuck (kind : ι → Prop) (state : σ) : Prop := ∀ input, kind input → next state input = none

variable {next} {state : σ} {input : ι}

theorem attempt_of_disabled (disabled : next state input = none) : attempt next state input = state := by
  rw [attempt, disabled]
  rfl

theorem attempt_of_enabled {reached : σ} (enabled : next state input = some reached) :
    attempt next state input = reached := by
  rw [attempt, enabled]
  rfl

theorem attempt_cases {P : σ → Prop} (stays : next state input = none → P state)
    (moves : ∀ reached, next state input = some reached → P reached) :
    P (attempt next state input) := by
  cases taken : next state input with
  | none =>
      rw [attempt_of_disabled taken]
      exact stays taken
  | some reached =>
      rw [attempt_of_enabled taken]
      exact moves reached taken

end Enabled

section Since
variable {ι : Type*} {occurs : List ι → ι → Prop} {keeps : ι → Prop}

/-- Some input of the list `occurs` after the inputs before it, and every later one `keeps`. -/
def Since (occurs : List ι → ι → Prop) (keeps : ι → Prop) (inputs : List ι) : Prop :=
  ∃ earlier input later, inputs = earlier ++ input :: later ∧ occurs earlier input ∧
    ∀ next ∈ later, keeps next

theorem not_since_nil : ¬ Since occurs keeps [] := by
  rintro ⟨earlier, input, later, split, -, -⟩
  cases earlier <;> simp at split

theorem since_snoc {before : List ι} {input : ι} :
    Since occurs keeps (before ++ [input]) ↔
      occurs before input ∨ (Since occurs keeps before ∧ keeps input) := by
  constructor
  · rintro ⟨earlier, found, later, split, occurred, kept⟩
    cases later using List.reverseRecOn with
    | nil =>
        obtain ⟨rfl, last⟩ := List.append_inj' split rfl
        obtain rfl : input = found := by simpa using last
        exact Or.inl occurred
    | append_singleton later last =>
        rw [← List.cons_append, ← List.append_assoc] at split
        obtain ⟨rfl, equal⟩ := List.append_inj' split rfl
        obtain rfl : input = last := by simpa using equal
        exact Or.inr ⟨⟨earlier, found, later, rfl, occurred,
          fun next member => kept next (by simp [member])⟩, kept input (by simp)⟩
  · rintro (occurred | ⟨⟨earlier, found, later, rfl, occurred, kept⟩, last⟩)
    · exact ⟨before, input, [], rfl, occurred, by simp⟩
    · refine ⟨earlier, found, later ++ [input], by simp, occurred, ?_⟩
      intro next member
      rcases List.mem_append.mp member with old | new
      · exact kept next old
      · obtain rfl : next = input := by simpa using new
        exact last

theorem not_since_of_forall {inputs : List ι}
    (never : ∀ input ∈ inputs, ∀ earlier, ¬ occurs earlier input) :
    ¬ Since occurs keeps inputs := by
  rintro ⟨earlier, input, later, rfl, occurred, -⟩
  exact never input (by simp) earlier occurred

end Since

section Preceded
variable {ε : Type*} {justified : List ε → ε → Prop}

/-- Every item is justified by the items before it. -/
def Preceded (justified : List ε → ε → Prop) (items : List ε) : Prop :=
  ∀ earlier item later, items = earlier ++ item :: later → justified earlier item

theorem preceded_nil : Preceded justified [] := by
  intro earlier item later split
  simp at split

theorem preceded_snoc {items : List ε} {item : ε} :
    Preceded justified (items ++ [item]) ↔ Preceded justified items ∧ justified items item := by
  constructor
  · intro preceded
    refine ⟨?_, preceded items item [] rfl⟩
    rintro earlier found later rfl
    exact preceded earlier found (later ++ [item]) (by simp)
  · rintro ⟨preceded, last⟩ earlier found later split
    cases later using List.reverseRecOn with
    | nil =>
        obtain ⟨rfl, same⟩ := List.append_inj' split rfl
        obtain rfl : item = found := by simpa using same
        exact last
    | append_singleton later other =>
        rw [← List.cons_append, ← List.append_assoc] at split
        obtain ⟨rfl, -⟩ := List.append_inj' split rfl
        exact preceded earlier found later rfl

/-- If a property of the items so far is carried over an item exactly when the item is justified by
them, it holds all along exactly when every item is justified. -/
theorem preceded_iff_forall_prefix {P : List ε → Prop} (start : P []) {items : List ε}
    (carried : ∀ before item, before ++ [item] <+: items → P before →
      (P (before ++ [item]) ↔ justified before item)) :
    Preceded justified items ↔ ∀ before, before <+: items → P before := by
  induction items using List.reverseRecOn with
  | nil =>
      refine ⟨?_, fun _ => preceded_nil⟩
      intro _ before initially
      rw [List.prefix_nil.mp initially]
      exact start
  | append_singleton earlier last ih =>
      have earlierCarried := ih fun before item initially =>
        carried before item (initially.trans (List.prefix_append ..))
      rw [preceded_snoc, earlierCarried]
      constructor
      · rintro ⟨holds, justifies⟩ before initially
        rcases List.prefix_concat_iff.mp initially with rfl | initially
        · exact (carried earlier last List.prefix_rfl (holds earlier List.prefix_rfl)).mpr justifies
        · exact holds before initially
      · intro holds
        refine ⟨fun before initially => holds before (initially.trans (List.prefix_append ..)), ?_⟩
        exact (carried earlier last List.prefix_rfl (holds earlier (List.prefix_append ..))).mp
          (holds _ List.prefix_rfl)

theorem Preceded.append {items added : List ε} (preceded : Preceded justified items)
    (grows : ∀ earlier more item, justified earlier item → justified (earlier ++ more) item)
    (new : ∀ item ∈ added, justified items item) : Preceded justified (items ++ added) := by
  intro earlier item later split
  rcases List.append_eq_append_iff.mp split with ⟨more, rfl, rest⟩ | ⟨more, shape, rest⟩
  · exact grows items more item (new item (by simp [rest]))
  · cases more with
    | nil =>
        rw [List.append_nil] at shape
        subst shape
        have added : item :: later = added := rest
        exact new item (by simp [← added])
    | cons first tail =>
        obtain ⟨rfl, -⟩ := List.cons_eq_cons.mp (rest.trans (List.cons_append ..))
        exact preceded earlier item tail shape

end Preceded

end Execution

end JqBle.Library
