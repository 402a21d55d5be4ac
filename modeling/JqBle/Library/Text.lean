import Mathlib.Data.List.DropRight

/-!
# Trimming, splitting and hexadecimal digits

Texts are lists of characters. What is trimmed and what is split may be lists of anything.
-/

namespace JqBle.Library.Text

variable {α : Type*}

/-! ## Trimming -/

section Trim
variable {blank : α → Bool} {core first last leading trailing : List α}

def trim (blank : α → Bool) (text : List α) : List α :=
  (text.dropWhile blank).rdropWhile blank

/-- Neither end is blank. -/
structure Trimmed (blank : α → Bool) (core : List α) : Prop where
  head : ∀ item ∈ core.head?, blank item = false
  last : ∀ item ∈ core.getLast?, blank item = false

theorem trimmed_of_forall (solid : ∀ item ∈ core, blank item = false) : Trimmed blank core :=
  ⟨fun item head => solid item (List.mem_of_mem_head? head),
    fun item last => solid item (List.mem_of_mem_getLast? last)⟩

theorem Trimmed.append (first_trimmed : Trimmed blank first) (last_trimmed : Trimmed blank last)
    (first_ne : first ≠ []) (last_ne : last ≠ []) (middle : List α) :
    Trimmed blank (first ++ middle ++ last) := by
  constructor
  · rw [List.append_assoc, List.head?_append_of_ne_nil _ first_ne]
    exact first_trimmed.head
  · rw [List.getLast?_append_of_ne_nil _ last_ne]
    exact last_trimmed.last

theorem dropWhile_of_head (head : ∀ item ∈ core.head?, blank item = false) :
    core.dropWhile blank = core := by
  cases core with
  | nil => rfl
  | cons item rest => simp [head item rfl]

theorem trim_pad (core_trimmed : Trimmed blank core) (blank_leading : ∀ item ∈ leading, blank item)
    (blank_trailing : ∀ item ∈ trailing, blank item) :
    trim blank (leading ++ core ++ trailing) = core := by
  unfold trim
  rw [List.append_assoc, List.dropWhile_append_of_pos blank_leading]
  by_cases empty : core = []
  · subst empty
    have dropped : trailing.dropWhile blank = [] := List.dropWhile_eq_nil_iff.mpr blank_trailing
    rw [List.nil_append, dropped]
    rfl
  · have kept : (core ++ trailing).dropWhile blank = core ++ trailing := by
      apply dropWhile_of_head
      rw [List.head?_append_of_ne_nil _ empty]
      exact core_trimmed.head
    rw [kept, List.rdropWhile, List.reverse_append, List.dropWhile_append_of_pos (by simpa),
      dropWhile_of_head, List.reverse_reverse]
    simpa using core_trimmed.last

theorem exists_pad (blank : α → Bool) (text : List α) :
    ∃ leading trailing, (∀ item ∈ leading, blank item) ∧ (∀ item ∈ trailing, blank item) ∧
      text = leading ++ trim blank text ++ trailing := by
  refine ⟨text.takeWhile blank, (text.dropWhile blank).rtakeWhile blank, ?_, ?_, ?_⟩
  · intro item member
    exact List.mem_takeWhile_imp member
  · intro item member
    exact List.mem_rtakeWhile_imp member
  · rw [List.append_assoc, trim, List.rdropWhile_append_rtakeWhile,
      List.takeWhile_append_dropWhile]

end Trim

/-! ## Splitting at the first separator -/

section Split
variable [BEq α] [LawfulBEq α] {separator text before after : List α} {item : α}

def splitOnce (separator : List α) : List α → Option (List α × List α)
  | [] => (separator.isPrefixOf? []).map fun after => ([], after)
  | item :: rest =>
      match separator.isPrefixOf? (item :: rest) with
      | some after => some ([], after)
      | none => (splitOnce separator rest).map fun parts => (item :: parts.1, parts.2)

theorem splitOnce_sound (split : splitOnce separator text = some (before, after)) :
    text = before ++ separator ++ after := by
  induction text generalizing before with
  | nil =>
      obtain ⟨rest, found, parts⟩ := Option.map_eq_some_iff.mp split
      cases parts
      exact (List.isPrefixOf?_eq_some_iff_append_eq.mp found).symm
  | cons item rest ih =>
      unfold splitOnce at split
      cases found : separator.isPrefixOf? (item :: rest) with
      | some tail =>
          rw [found] at split
          cases split
          exact (List.isPrefixOf?_eq_some_iff_append_eq.mp found).symm
      | none =>
          rw [found] at split
          obtain ⟨⟨earlier, later⟩, inner, parts⟩ := Option.map_eq_some_iff.mp split
          cases parts
          rw [ih inner]
          rfl

theorem isPrefixOf?_eq_none_of_ne {rest : List α} {other : α} (different : other ≠ item) :
    (item :: separator).isPrefixOf? (other :: rest) = none := by
  rw [Option.eq_none_iff_forall_ne_some]
  intro tail found
  have equal := List.isPrefixOf?_eq_some_iff_append_eq.mp found
  exact different (List.cons.inj equal).1.symm

/-- A text without the separator's first item is not split. -/
theorem splitOnce_eq_none (absent : item ∉ text) : splitOnce (item :: separator) text = none := by
  induction text with
  | nil => rfl
  | cons other rest ih =>
      rw [List.mem_cons, not_or] at absent
      unfold splitOnce
      rw [isPrefixOf?_eq_none_of_ne (Ne.symm absent.1), ih absent.2]
      rfl

theorem splitOnce_append (absent : item ∉ before) :
    splitOnce (item :: separator) (before ++ (item :: separator ++ after)) =
      some (before, after) := by
  induction before with
  | nil =>
      have found : (item :: separator).isPrefixOf? (item :: separator ++ after) = some after :=
        List.isPrefixOf?_eq_some_iff_append_eq.mpr rfl
      rw [List.nil_append, List.cons_append, splitOnce, ← List.cons_append, found]
  | cons other rest ih =>
      rw [List.mem_cons, not_or] at absent
      rw [List.cons_append, splitOnce, isPrefixOf?_eq_none_of_ne (Ne.symm absent.1),
        ih absent.2]
      rfl

end Split

/-! ## Hexadecimal digits -/

/-- The value of a hexadecimal digit of either case. -/
def digitValue (digit : Char) : Option Nat :=
  if 0x30 ≤ digit.toNat ∧ digit.toNat ≤ 0x39 then some (digit.toNat - 0x30)
  else if 0x61 ≤ digit.toNat ∧ digit.toNat ≤ 0x66 then some (digit.toNat - 0x61 + 10)
  else if 0x41 ≤ digit.toNat ∧ digit.toNat ≤ 0x46 then some (digit.toNat - 0x41 + 10)
  else none

def IsHexDigit (digit : Char) : Prop := (digitValue digit).isSome

theorem isHexDigit_iff {digit : Char} : IsHexDigit digit ↔
    (0x30 ≤ digit.toNat ∧ digit.toNat ≤ 0x39) ∨ (0x61 ≤ digit.toNat ∧ digit.toNat ≤ 0x66) ∨
      (0x41 ≤ digit.toNat ∧ digit.toNat ≤ 0x46) := by
  unfold IsHexDigit digitValue
  split_ifs <;> simp_all

/-- The bytes that a text of digits denotes, two digits each. -/
def hexBytes : List Char → Option (List UInt8)
  | [] => some []
  | [_] => none
  | high :: low :: rest => do
      let highValue ← digitValue high
      let lowValue ← digitValue low
      let bytes ← hexBytes rest
      some (UInt8.ofNat (16 * highValue + lowValue) :: bytes)

theorem hexBytes_sound {text : List Char} {bytes : List UInt8}
    (denotes : hexBytes text = some bytes) :
    (∀ digit ∈ text, IsHexDigit digit) ∧ text.length = 2 * bytes.length := by
  induction text using hexBytes.induct generalizing bytes with
  | case1 =>
      cases denotes
      simp
  | case2 digit => cases denotes
  | case3 high low rest ih =>
      simp only [hexBytes, Option.bind_eq_bind, Option.bind_eq_some_iff, Option.some.injEq]
        at denotes
      obtain ⟨highValue, highDigit, lowValue, lowDigit, restBytes, restDenotes, rfl⟩ := denotes
      obtain ⟨digits, sized⟩ := ih restDenotes
      constructor
      · intro digit member
        rcases List.mem_cons.mp member with rfl | member
        · simp [IsHexDigit, highDigit]
        · rcases List.mem_cons.mp member with rfl | member
          · simp [IsHexDigit, lowDigit]
          · exact digits digit member
      · simp only [List.length_cons]
        omega

theorem exists_hexBytes {text : List Char} (digits : ∀ digit ∈ text, IsHexDigit digit)
    (even : text.length % 2 = 0) : ∃ bytes, hexBytes text = some bytes := by
  induction text using hexBytes.induct with
  | case1 => exact ⟨[], rfl⟩
  | case2 digit => simp at even
  | case3 high low rest ih =>
      obtain ⟨highValue, highDigit⟩ := Option.isSome_iff_exists.mp (digits high (by simp))
      obtain ⟨lowValue, lowDigit⟩ := Option.isSome_iff_exists.mp (digits low (by simp))
      obtain ⟨bytes, denotes⟩ := ih (fun digit member => digits digit (by simp [member])) (by
        simp only [List.length_cons] at even
        omega)
      exact ⟨UInt8.ofNat (16 * highValue + lowValue) :: bytes,
        by simp [hexBytes, highDigit, lowDigit, denotes]⟩

/-! ### Writing digits -/

def lowerDigit (value : Nat) : Char := Char.ofNat (if value < 10 then 0x30 + value else 0x57 + value)

def lowerHex (bytes : List UInt8) : List Char :=
  bytes.flatMap fun byte => [lowerDigit (byte.toNat / 16), lowerDigit (byte.toNat % 16)]

theorem digitValue_lowerDigit {value : Nat} (small : value < 16) :
    digitValue (lowerDigit value) = some value := by
  have all : ∀ value < 16, digitValue (lowerDigit value) = some value := by decide
  exact all value small

theorem hexBytes_lowerHex (bytes : List UInt8) : hexBytes (lowerHex bytes) = some bytes := by
  induction bytes with
  | nil => rfl
  | cons byte rest ih =>
      have bounded := byte.toNat_lt
      have high : byte.toNat / 16 < 16 := by omega
      have low : byte.toNat % 16 < 16 := by omega
      have whole : UInt8.ofNat (16 * (byte.toNat / 16) + byte.toNat % 16) = byte := by
        rw [Nat.div_add_mod, UInt8.ofNat_toNat]
      show hexBytes (lowerDigit (byte.toNat / 16) :: lowerDigit (byte.toNat % 16) ::
        lowerHex rest) = _
      simp only [hexBytes, digitValue_lowerDigit high, digitValue_lowerDigit low, ih,
        Option.bind_eq_bind, Option.bind_some, whole]

end JqBle.Library.Text
