import JqBle.Library.Execution
import Mathlib.Data.List.Count

/-!
# Threads over a shared state

Threads are spawned at any time and take their steps in any order. Each step sees and changes the shared
state and the own thread only. What holds of a thread has to be stable under what the others guarantee.
-/

namespace JqBle.Library

structure Threads (σ τ : Type*) where
  shared : σ
  threads : List τ

inductive ThreadStep (τ ι : Type*)
  | spawn (thread : τ)
  | run (position : Nat) (input : ι)

namespace Threads
open Execution

variable {σ τ ι : Type*} (move : σ → τ → ι → Option (σ × τ))

def next (state : Threads σ τ) : ThreadStep τ ι → Option (Threads σ τ)
  | .spawn thread => some { state with threads := state.threads ++ [thread] }
  | .run position input =>
      match state.threads[position]? with
      | none => none
      | some thread =>
          (move state.shared thread input).map fun moved =>
            ⟨moved.1, state.threads.set position moved.2⟩

def step : Threads σ τ → ThreadStep τ ι → Threads σ τ := attempt (next move)

def start (shared : σ) : Threads σ τ := ⟨shared, []⟩

/-- Every thread that is spawned is of this kind. -/
def Spawns (kind : τ → Prop) (inputs : List (ThreadStep τ ι)) : Prop :=
  ∀ thread, .spawn thread ∈ inputs → kind thread

variable {move} {kind : τ → Prop} {invariant : σ → Prop} {assertion : σ → τ → Prop}
  {rely : σ → σ → Prop} {shared : σ} {inputs : List (ThreadStep τ ι)}

theorem Spawns.of_snoc {before : List (ThreadStep τ ι)} {input : ThreadStep τ ι}
    (spawns : Spawns kind (before ++ [input])) :
    Spawns kind before ∧ ∀ thread, input = .spawn thread → kind thread := by
  constructor
  · intro thread member
    exact spawns thread (by simp [member])
  · rintro thread rfl
    exact spawns thread (by simp)

theorem next_run {state reached : Threads σ τ} {position : Nat} {input : ι}
    (taken : next move state (.run position input) = some reached) :
    ∃ thread moved, state.threads[position]? = some thread ∧
      move state.shared thread input = some moved ∧
      reached = ⟨moved.1, state.threads.set position moved.2⟩ := by
  simp only [next] at taken
  split at taken
  · cases taken
  · rename_i thread found
    obtain ⟨moved, moves, same⟩ := Option.map_eq_some_iff.mp taken
    exact ⟨thread, moved, found, moves, same.symm⟩

theorem countP_set_add (holds : τ → Bool) {threads : List τ} {position : Nat} {thread : τ}
    (found : threads[position]? = some thread) (moved : τ) :
    (threads.set position moved).countP holds + (holds thread).toNat =
      threads.countP holds + (holds moved).toNat := by
  induction threads generalizing position with
  | nil => cases found
  | cons first rest ih =>
      cases position with
      | zero =>
          obtain rfl := Option.some.inj found
          simp only [List.set_cons_zero, List.countP_cons]
          cases holds first <;> cases holds moved <;> simp +arith
      | succ position =>
          have later : rest[position]? = some thread := by simpa using found
          have counted := ih later
          simp only [List.set_cons_succ, List.countP_cons]
          omega

def Asserted (invariant : σ → Prop) (assertion : σ → τ → Prop) (state : Threads σ τ) : Prop :=
  invariant state.shared ∧ ∀ thread ∈ state.threads, assertion state.shared thread

/-- Every step of a thread keeps the invariant and the assertion of that thread, and it changes the
shared state only in a way that the assertions of the other threads survive. -/
structure RelyGuarantee (move : σ → τ → ι → Option (σ × τ)) (kind : τ → Prop) (invariant : σ → Prop)
    (assertion : σ → τ → Prop) (rely : σ → σ → Prop) : Prop where
  spawned : ∀ shared thread, invariant shared → kind thread → assertion shared thread
  guarantees : ∀ shared thread input moved, invariant shared → assertion shared thread →
    move shared thread input = some moved →
    invariant moved.1 ∧ assertion moved.1 moved.2 ∧ rely shared moved.1
  stable : ∀ shared later thread, rely shared later → assertion shared thread →
    assertion later thread
  refl : ∀ shared, rely shared shared
  trans : ∀ shared later last, rely shared later → rely later last → rely shared last

namespace RelyGuarantee
variable {rely : σ → σ → Prop} (protocol : RelyGuarantee move kind invariant assertion rely)

include protocol

theorem next {state reached : Threads σ τ} {input : ThreadStep τ ι}
    (held : Asserted invariant assertion state) (spawns : ∀ thread, input = .spawn thread → kind thread)
    (taken : Threads.next move state input = some reached) :
    Asserted invariant assertion reached ∧ rely state.shared reached.shared := by
  obtain ⟨holds, asserted⟩ := held
  cases input with
  | spawn thread =>
      obtain rfl := Option.some.inj taken
      refine ⟨⟨holds, ?_⟩, protocol.refl _⟩
      intro other member
      rcases List.mem_append.mp member with old | new
      · exact asserted other old
      · obtain rfl := List.mem_singleton.mp new
        exact protocol.spawned _ _ holds (spawns _ rfl)
  | run position input =>
      obtain ⟨thread, moved, found, moves, rfl⟩ := next_run taken
      obtain ⟨kept, moving, relies⟩ := protocol.guarantees _ _ _ _ holds
        (asserted thread (List.mem_of_getElem? found)) moves
      refine ⟨⟨kept, ?_⟩, relies⟩
      intro other member
      rcases List.mem_or_eq_of_mem_set member with old | rfl
      · exact protocol.stable _ _ _ relies (asserted other old)
      · exact moving

theorem asserted_and_relied {initial : Threads σ τ} (held : Asserted invariant assertion initial)
    (spawns : Spawns kind inputs) :
    Asserted invariant assertion (exec (step move) initial inputs) ∧
      rely initial.shared (exec (step move) initial inputs).shared := by
  induction inputs using List.reverseRecOn with
  | nil => exact ⟨held, protocol.refl _⟩
  | append_singleton before input ih =>
      obtain ⟨earlier, own⟩ := spawns.of_snoc
      obtain ⟨held, relied⟩ := ih earlier
      rw [exec_snoc]
      apply attempt_cases (P := fun state => Asserted invariant assertion state ∧
        rely initial.shared state.shared)
      · exact fun _ => ⟨held, relied⟩
      · intro reached taken
        obtain ⟨kept, later⟩ := protocol.next held own taken
        exact ⟨kept, protocol.trans _ _ _ relied later⟩

theorem asserted (initially : invariant shared) (spawns : Spawns kind inputs) :
    Asserted invariant assertion (exec (step move) (start shared) inputs) :=
  (protocol.asserted_and_relied ⟨initially, by simp [start]⟩ spawns).1

/-- What the threads have gained together with what they still hold is what the shared state accounts
for, if every single step keeps it so. -/
theorem gained_add_held (holds : τ → Bool) (gained owed : σ → Nat) (initially : invariant shared)
    (settled : gained shared = owed shared) (spawned : ∀ thread, kind thread → holds thread = false)
    (moves : ∀ shared thread input moved, assertion shared thread →
      move shared thread input = some moved →
      gained moved.1 + (holds moved.2).toNat + owed shared =
        gained shared + (holds thread).toNat + owed moved.1)
    (spawns : Spawns kind inputs) :
    gained (exec (step move) (start shared) inputs).shared +
        (exec (step move) (start shared) inputs).threads.countP holds =
      owed (exec (step move) (start shared) inputs).shared := by
  induction inputs using List.reverseRecOn with
  | nil => simpa [start] using settled
  | append_singleton before input ih =>
      obtain ⟨earlier, own⟩ := spawns.of_snoc
      have balanced := ih earlier
      obtain ⟨-, asserted⟩ := protocol.asserted initially earlier
      rw [exec_snoc]
      generalize exec (step move) (start shared) before = state at balanced asserted
      apply attempt_cases (P := fun state : Threads σ τ =>
        gained state.shared + state.threads.countP holds = owed state.shared)
      · exact fun _ => balanced
      · intro reached taken
        cases input with
        | spawn thread =>
            obtain rfl := Option.some.inj taken
            simpa [List.countP_append, spawned thread (own thread rfl)] using balanced
        | run position input =>
            obtain ⟨thread, moved, found, made, rfl⟩ := next_run taken
            have change := moves _ _ _ _ (asserted thread (List.mem_of_getElem? found)) made
            have counted := countP_set_add holds found moved.2
            dsimp only
            omega

end RelyGuarantee

end Threads

end JqBle.Library
