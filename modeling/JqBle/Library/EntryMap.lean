import Mathlib.Data.List.Basic

/-!
# Ordered maps with entry updates

What the standard library's ordered maps need for programs that update an entry in place or insert
it when it is missing, and that search the values in key order for the first one of a kind.
-/

namespace JqBle.Library.EntryMap
open Std

variable {α β γ : Type*} [Ord α] [TransOrd α] [LawfulEqOrd α]

def modifyOrInsert (map : ExtTreeMap α β) (key : α) (modify : β → β) (fresh : β) :
    ExtTreeMap α β :=
  map.insert key (match map[key]? with | some value => modify value | none => fresh)

theorem getElem?_insert [DecidableEq α] (map : ExtTreeMap α β) (key other : α) (value : β) :
    (map.insert key value)[other]? = if other = key then some value else map[other]? := by
  rw [ExtTreeMap.getElem?_insert]
  simp only [Std.compare_eq_iff_eq, eq_comm (a := key)]

theorem insert_of_getElem? [DecidableEq α] {map : ExtTreeMap α β} {key : α} {value : β}
    (located : map[key]? = some value) : map.insert key value = map := by
  refine ExtTreeMap.ext_getElem? fun other => ?_
  rw [getElem?_insert]
  split
  · rename_i same
    rw [same, located]
  · rfl

theorem getElem?_erase [DecidableEq α] (map : ExtTreeMap α β) (key other : α) :
    (map.erase key)[other]? = if other = key then none else map[other]? := by
  rw [ExtTreeMap.getElem?_erase]
  simp only [Std.compare_eq_iff_eq, eq_comm (a := key)]

theorem insert_erase [DecidableEq α] (map : ExtTreeMap α β) (key : α) (value : β) :
    (map.erase key).insert key value = map.insert key value := by
  refine ExtTreeMap.ext_getElem? fun other => ?_
  simp only [getElem?_insert, getElem?_erase]
  split <;> rfl

theorem getElem?_modifyOrInsert [DecidableEq α] (map : ExtTreeMap α β) (key other : α)
    (modify : β → β) (fresh : β) :
    (modifyOrInsert map key modify fresh)[other]? =
      if other = key then some ((map[key]?.map modify).getD fresh) else map[other]? := by
  rw [modifyOrInsert, getElem?_insert]
  cases map[key]? <;> rfl

theorem getElem?_filter_eq_some (map : ExtTreeMap α β) (keep : α → β → Bool) (key : α) (value : β) :
    (map.filter keep)[key]? = some value ↔ map[key]? = some value ∧ keep key value = true := by
  rw [ExtTreeMap.getElem?_filter', Option.filter_eq_some_iff]

/-- The first image, in key order, of an entry's value. -/
def findValue (map : ExtTreeMap α β) (found : β → Option γ) : Option γ :=
  map.toList.findSome? fun entry => found entry.2

theorem findValue_eq_some {map : ExtTreeMap α β} {found : β → Option γ} {result : γ}
    (search : findValue map found = some result) :
    ∃ (key : α) (value : β), map[key]? = some value ∧ found value = some result := by
  obtain ⟨entry, member, image⟩ := List.exists_of_findSome?_eq_some search
  exact ⟨entry.1, entry.2, ExtTreeMap.mem_toList_iff_getElem?_eq_some.mp member, image⟩

theorem findValue_eq_none {map : ExtTreeMap α β} {found : β → Option γ} :
    findValue map found = none ↔
      ∀ (key : α) (value : β), map[key]? = some value → found value = none := by
  rw [findValue, List.findSome?_eq_none_iff]
  constructor
  · intro none key value located
    exact none (key, value) (ExtTreeMap.mem_toList_iff_getElem?_eq_some.mpr located)
  · intro none entry member
    exact none entry.1 entry.2 (ExtTreeMap.mem_toList_iff_getElem?_eq_some.mp member)

theorem findValue_of_unique {map : ExtTreeMap α β} {found : β → Option γ} {key : α} {value : β}
    {result : γ} (located : map[key]? = some value) (image : found value = some result)
    (unique : ∀ (other : α) (v : β), map[other]? = some v → found v ≠ none → other = key) :
    findValue map found = some result := by
  cases search : findValue map found with
  | none => simp [findValue_eq_none.mp search key value located] at image
  | some first =>
      obtain ⟨other, v, otherLocated, otherImage⟩ := findValue_eq_some search
      obtain rfl := unique other v otherLocated (by simp [otherImage])
      rw [located, Option.some.injEq] at otherLocated
      subst otherLocated
      rw [← otherImage, image]

theorem findValue_filter {map : ExtTreeMap α β} {found : β → Option γ} {keep : α → β → Bool}
    (dropped : ∀ (key : α) (value : β), map[key]? = some value → keep key value = false →
      found value = none) :
    findValue (map.filter keep) found = findValue map found := by
  unfold findValue
  rw [ExtTreeMap.toList_filter]
  have silent : ∀ entry ∈ map.toList, keep entry.1 entry.2 = false → found entry.2 = none :=
    fun entry member => dropped _ _ (ExtTreeMap.mem_toList_iff_getElem?_eq_some.mp member)
  generalize map.toList = entries at silent
  induction entries with
  | nil => rfl
  | cons entry rest ih =>
      have restSilent := ih fun e member => silent e (List.mem_cons_of_mem _ member)
      by_cases kept : keep entry.1 entry.2 = true
      · simp [kept, List.findSome?_cons, restSilent]
      · have none := silent entry (by simp) (by simpa using kept)
        simp [kept, none, restSilent]

/-! ## Replacing a value -/

/-- A value that is replaced keeps its place in key order. -/
theorem toList_insert_of_split [DecidableEq α] {map : ExtTreeMap α β} {key : α} {value : β}
    {earlier later : List (α × β)} (split : map.toList = earlier ++ (key, value) :: later)
    (replaced : β) :
    (map.insert key replaced).toList = earlier ++ (key, replaced) :: later := by
  have ordered : (earlier ++ (key, value) :: later).Pairwise
      fun first second => compare first.1 second.1 = .lt := by
    rw [← split]
    exact ExtTreeMap.ordered_keys_toList
  have apart (first second : α) (less : compare first second = .lt) : first ≠ second := by
    rintro rfl
    simp at less
  have orderedReplaced : (earlier ++ (key, replaced) :: later).Pairwise
      fun first second => compare first.1 second.1 = .lt := by
    rw [List.pairwise_append, List.pairwise_cons] at ordered ⊢
    simpa using ordered
  have others : ∀ entry, entry ∈ earlier ++ later → entry.1 ≠ key := by
    intro entry member
    rw [List.pairwise_append, List.pairwise_cons] at ordered
    rcases List.mem_append.mp member with before | after
    · exact apart _ _ (ordered.2.2 entry before (key, value) (by simp))
    · exact (apart _ _ (ordered.2.1.1 entry after)).symm
  have distinct (entries : List (α × β))
      (ordered : entries.Pairwise fun first second => compare first.1 second.1 = .lt) :
      entries.Nodup := by
    refine ordered.imp fun less same => ?_
    exact apart _ _ less (by rw [same])
  refine List.Perm.eq_of_pairwise ?_ ExtTreeMap.ordered_keys_toList orderedReplaced ?_
  · intro first second _ _ less greater
    exact absurd rfl (apart _ _ (TransCmp.lt_trans less greater))
  · rw [List.perm_ext_iff_of_nodup (distinct _ ExtTreeMap.ordered_keys_toList)
      (distinct _ orderedReplaced)]
    rintro ⟨other, held⟩
    rw [ExtTreeMap.mem_toList_iff_getElem?_eq_some, getElem?_insert]
    by_cases same : other = key
    · subst same
      have absent (entries : List (α × β)) (within : entries ⊆ earlier ++ later) :
          (other, held) ∉ entries := fun member => others _ (within member) rfl
      simp [absent earlier (by simp), absent later (by simp), eq_comm]
    · rw [if_neg same, ← ExtTreeMap.mem_toList_iff_getElem?_eq_some, split]
      simp [same]

theorem split_of_getElem? {map : ExtTreeMap α β} {key : α} {value : β}
    (located : map[key]? = some value) :
    ∃ earlier later, map.toList = earlier ++ (key, value) :: later :=
  List.append_of_mem (ExtTreeMap.mem_toList_iff_getElem?_eq_some.mpr located)

theorem countP_insert_add_one [DecidableEq α] {map : ExtTreeMap α β} {key : α}
    {value replaced : β} (counted : β → Bool) (located : map[key]? = some value)
    (before : counted value = true) (after : counted replaced = false) :
    (map.insert key replaced).toList.countP (fun entry => counted entry.2) + 1 =
      map.toList.countP fun entry => counted entry.2 := by
  obtain ⟨earlier, later, split⟩ := split_of_getElem? located
  rw [split, toList_insert_of_split split]
  simp [List.countP_append, before, after]
  omega

/-- A replaced value that was not found before is found now, or the search finds what it found. -/
theorem findValue_insert_of_none [DecidableEq α] {map : ExtTreeMap α β} (found : β → Option γ)
    {key : α} {value : β} (located : map[key]? = some value) (missed : found value = none)
    (replaced : β) :
    findValue (map.insert key replaced) found = findValue map found ∨
      (found replaced ≠ none ∧ findValue (map.insert key replaced) found = found replaced) := by
  obtain ⟨earlier, later, split⟩ := split_of_getElem? located
  unfold findValue
  rw [split, toList_insert_of_split split]
  simp only [List.findSome?_append, List.findSome?_cons, missed]
  cases earlier.findSome? fun entry => found entry.2 with
  | some first => exact Or.inl rfl
  | none =>
      cases image : found replaced with
      | none => exact Or.inl rfl
      | some result => exact Or.inr ⟨by simp, rfl⟩

/-- The first entry, in key order, that is found. -/
def findEntry (map : ExtTreeMap α β) (found : β → Option γ) : Option (α × β) :=
  map.toList.find? fun entry => (found entry.2).isSome

section First
variable {map : ExtTreeMap α β} {found : β → Option γ} {key : α} {value : β}

theorem split_of_findEntry (first : findEntry map found = some (key, value)) :
    map[key]? = some value ∧ (found value).isSome ∧
      ∃ earlier later, map.toList = earlier ++ (key, value) :: later ∧
        (earlier.findSome? fun entry => found entry.2) = none := by
  obtain ⟨here, earlier, later, split, missed⟩ := List.find?_eq_some_iff_append.mp first
  refine ⟨?_, here, earlier, later, split, ?_⟩
  · apply ExtTreeMap.mem_toList_iff_getElem?_eq_some.mp
    rw [split]
    simp
  · rw [List.findSome?_eq_none_iff]
    intro entry member
    simpa using missed entry member

theorem findValue_of_findEntry (first : findEntry map found = some (key, value)) :
    findValue map found = found value := by
  obtain ⟨-, here, earlier, later, split, missed⟩ := split_of_findEntry first
  obtain ⟨result, image⟩ := Option.isSome_iff_exists.mp here
  simp [findValue, split, missed, image]

theorem findEntry_eq_some_iff : findEntry map found = some (key, value) ↔
    map[key]? = some value ∧ (found value).isSome ∧
      ∀ (other : α) (v : β), map[other]? = some v → compare other key = .lt → found v = none := by
  constructor
  · intro first
    obtain ⟨located, here, earlier, later, split, missed⟩ := split_of_findEntry first
    refine ⟨located, here, ?_⟩
    intro other v otherLocated before
    have ordered := ExtTreeMap.ordered_keys_toList (t := map)
    rw [split, List.pairwise_append, List.pairwise_cons] at ordered
    have member := ExtTreeMap.mem_toList_iff_getElem?_eq_some.mpr otherLocated
    rw [split, List.mem_append, List.mem_cons] at member
    rcases member with early | same | late
    · exact List.findSome?_eq_none_iff.mp missed _ early
    · cases same
      simp at before
    · have after := ordered.2.1.1 _ late
      exact absurd (TransCmp.lt_trans before after) (by simp)
  · rintro ⟨located, here, missed⟩
    obtain ⟨earlier, later, split⟩ := split_of_getElem? located
    refine List.find?_eq_some_iff_append.mpr ⟨here, earlier, later, split, ?_⟩
    intro entry member
    have ordered := ExtTreeMap.ordered_keys_toList (t := map)
    rw [split, List.pairwise_append] at ordered
    have otherLocated : map[entry.1]? = some entry.2 := by
      apply ExtTreeMap.mem_toList_iff_getElem?_eq_some.mp
      rw [split]
      exact List.mem_append_left _ member
    simp [missed entry.1 entry.2 otherLocated (ordered.2.2 entry member (key, value) (by simp))]

variable [DecidableEq α] {other : α} {replaced : β}

theorem findEntry_insert (first : findEntry map found = some (key, value))
    (before : other = key ∨ compare other key = .lt) (here : (found replaced).isSome) :
    findEntry (map.insert other replaced) found = some (other, replaced) := by
  obtain ⟨-, -, missed⟩ := findEntry_eq_some_iff.mp first
  refine findEntry_eq_some_iff.mpr ⟨by simp, here, ?_⟩
  intro earlier v located less
  rw [getElem?_insert, if_neg (by rintro rfl; simp at less)] at located
  refine missed earlier v located ?_
  rcases before with rfl | before
  · exact less
  · exact TransCmp.lt_trans less before

theorem findEntry_insert_of_missed (first : findEntry map found = some (key, value))
    (different : other ≠ key) (passed : compare other key = .lt → found replaced = none) :
    findEntry (map.insert other replaced) found = some (key, value) := by
  obtain ⟨located, here, missed⟩ := findEntry_eq_some_iff.mp first
  refine findEntry_eq_some_iff.mpr ⟨?_, here, ?_⟩
  · rwa [getElem?_insert, if_neg different.symm]
  · intro earlier v earlierLocated less
    rw [getElem?_insert] at earlierLocated
    split at earlierLocated
    · rename_i same
      subst same
      cases earlierLocated
      exact passed less
    · exact missed earlier v earlierLocated less

end First

/-! ## Collecting a list into a map -/

section Collect
variable {ε : Type*} {key : β → α} {validate : β → Except ε Unit} {duplicate : β → ε}
  {map result : ExtTreeMap α β} {items : List β} {item : β} {k : α}

/-- The values in key order. -/
def inOrder (map : ExtTreeMap α β) : List β := map.toList.map Prod.snd

/-- Every value is filed under its own key. -/
def KeyedBy (key : β → α) (map : ExtTreeMap α β) : Prop :=
  ∀ (k : α) (value : β), map[k]? = some value → key value = k

def insertAll (key : β → α) (map : ExtTreeMap α β) (items : List β) : ExtTreeMap α β :=
  items.foldl (fun map item => map.insert (key item) item) map

/-- Insert the items in order, each once it has passed its validation and unless its key is taken. -/
def insertUnique (key : β → α) (validate : β → Except ε Unit) (duplicate : β → ε)
    (map : ExtTreeMap α β) : List β → Except ε (ExtTreeMap α β)
  | [] => .ok map
  | item :: rest =>
      match validate item with
      | .error error => .error error
      | .ok () =>
          if map.contains (key item) then .error (duplicate item)
          else insertUnique key validate duplicate (map.insert (key item) item) rest

theorem insertUnique_eq_ok : insertUnique key validate duplicate map items = .ok result ↔
    (∀ item ∈ items, validate item = .ok ()) ∧ (∀ item ∈ items, key item ∉ map) ∧
      (items.map key).Nodup ∧ insertAll key map items = result := by
  induction items generalizing map with
  | nil => simp [insertUnique, insertAll]
  | cons item rest ih =>
      cases validated : validate item with
      | error error => simp [insertUnique, validated]
      | ok _ =>
          by_cases taken : key item ∈ map
          · simp [insertUnique, validated, taken]
          · have fresh : (∀ next ∈ rest, key next ∉ map.insert (key item) item) ↔
                (∀ next ∈ rest, key next ∉ map) ∧ key item ∉ rest.map key := by
              simp only [ExtTreeMap.mem_insert, Std.compare_eq_iff_eq, not_or, List.mem_map]
              grind
            have step : insertUnique key validate duplicate map (item :: rest) =
                insertUnique key validate duplicate (map.insert (key item) item) rest := by
              simp [insertUnique, validated, taken]
            rw [step, ih, fresh]
            simp only [insertAll, List.foldl_cons, List.forall_mem_cons, List.map_cons,
              List.nodup_cons, validated, taken, not_false_eq_true, true_and]
            exact ⟨fun ⟨valid, ⟨absent, new⟩, distinct, equal⟩ =>
                ⟨valid, absent, ⟨new, distinct⟩, equal⟩,
              fun ⟨valid, absent, ⟨new, distinct⟩, equal⟩ =>
                ⟨valid, ⟨absent, new⟩, distinct, equal⟩⟩

theorem mem_inOrder : item ∈ inOrder map ↔ ∃ k : α, map[k]? = some item := by
  simp [inOrder, ExtTreeMap.mem_toList_iff_getElem?_eq_some]

theorem nodup_inOrder (keyed : KeyedBy key map) : ((inOrder map).map key).Nodup := by
  have keys : (inOrder map).map key = map.keys := by
    rw [← ExtTreeMap.map_fst_toList_eq_keys, inOrder, List.map_map]
    refine List.map_congr_left fun entry member => ?_
    exact keyed entry.1 entry.2 (ExtTreeMap.mem_toList_iff_getElem?_eq_some.mp member)
  rw [keys]
  exact ExtTreeMap.nodup_keys

theorem getElem?_insertAll [DecidableEq α] : (insertAll key map items)[k]? =
    (items.reverse.find? fun item => key item = k).or map[k]? := by
  induction items generalizing map with
  | nil => rfl
  | cons item rest ih =>
      simp only [insertAll, List.foldl_cons] at ih ⊢
      rw [ih, getElem?_insert, List.reverse_cons, List.find?_append]
      by_cases same : key item = k
      · simp [same]
      · simp [same, Ne.symm same]

/-- The last item of a key is the one that stays. -/
theorem getElem?_insertAll_empty [DecidableEq α] : (insertAll key ∅ items)[k]? = some item ↔
    ∃ earlier later, items = earlier ++ item :: later ∧ key item = k ∧
      ∀ next ∈ later, key next ≠ k := by
  rw [getElem?_insertAll, ExtTreeMap.getElem?_empty, Option.or_none, List.find?_eq_some_iff_append]
  constructor
  · rintro ⟨own, later, earlier, split, others⟩
    refine ⟨earlier.reverse, later.reverse, ?_, by simpa using own, ?_⟩
    · rw [← List.reverse_reverse items, split]
      simp
    · intro next member
      simpa using others next (List.mem_reverse.mp member)
  · rintro ⟨earlier, later, rfl, own, others⟩
    refine ⟨by simpa using own, later.reverse, earlier.reverse, by simp, ?_⟩
    intro next member
    simpa using others next (List.mem_reverse.mp member)

theorem mem_insertAll [DecidableEq α] :
    k ∈ insertAll key ∅ items ↔ ∃ item ∈ items, key item = k := by
  rw [ExtTreeMap.mem_iff_isSome_getElem?, getElem?_insertAll, ExtTreeMap.getElem?_empty,
    Option.or_none, List.find?_isSome]
  simp

/-- Where no two items have one key, every item stays. -/
theorem getElem?_insertAll_of_nodup [DecidableEq α] (distinct : (items.map key).Nodup) :
    (insertAll key ∅ items)[k]? = some item ↔ item ∈ items ∧ key item = k := by
  rw [getElem?_insertAll_empty]
  constructor
  · rintro ⟨earlier, later, rfl, own, -⟩
    exact ⟨by simp, own⟩
  · rintro ⟨member, own⟩
    obtain ⟨earlier, later, rfl⟩ := List.append_of_mem member
    refine ⟨earlier, later, rfl, own, ?_⟩
    intro next after same
    rw [List.map_append, List.map_cons] at distinct
    have apart := (List.nodup_cons.mp (List.nodup_append.mp distinct).2.1).1
    exact apart (List.mem_map.mpr ⟨next, after, same.trans own.symm⟩)

theorem insertAll_of_perm [DecidableEq α] {permuted : List β} (perm : permuted.Perm items)
    (distinct : (items.map key).Nodup) : insertAll key ∅ permuted = insertAll key ∅ items := by
  have distinct' : (permuted.map key).Nodup := ((perm.map key).nodup_iff).mpr distinct
  refine ExtTreeMap.ext_getElem? fun k => Option.ext fun item => ?_
  rw [getElem?_insertAll_of_nodup distinct, getElem?_insertAll_of_nodup distinct', perm.mem_iff]

theorem keyedBy_insertAll [DecidableEq α] : KeyedBy key (insertAll key ∅ items) := by
  intro k item located
  obtain ⟨earlier, later, -, own, -⟩ := getElem?_insertAll_empty.mp located
  exact own

/-- A map is collected from its own values: no two of them have one key. -/
theorem insertAll_inOrder [DecidableEq α] (keyed : KeyedBy key map) :
    insertAll key ∅ (inOrder map) = map := by
  refine ExtTreeMap.ext_getElem? fun k => ?_
  rw [getElem?_insertAll, ExtTreeMap.getElem?_empty, Option.or_none]
  cases located : map[k]? with
  | none =>
      rw [List.find?_eq_none]
      intro item member same
      obtain ⟨other, found⟩ := mem_inOrder.mp (List.mem_reverse.mp member)
      have own := keyed other item found
      rw [← own, of_decide_eq_true same, located] at found
      cases found
  | some value =>
      cases search : (inOrder map).reverse.find? fun item => key item = k with
      | none =>
          have missed := List.find?_eq_none.mp search value
            (List.mem_reverse.mpr (mem_inOrder.mpr ⟨k, located⟩))
          simp [keyed k value located] at missed
      | some item =>
          obtain ⟨other, found⟩ := mem_inOrder.mp
            (List.mem_reverse.mp (List.mem_of_find?_eq_some search))
          have own := keyed other item found
          have same : key item = k := by simpa using List.find?_some search
          rw [← own, same, located] at found
          exact found.symm

theorem insertUnique_inOrder [DecidableEq α] (keyed : KeyedBy key map) :
    insertUnique key validate duplicate ∅ (inOrder map) = .ok result ↔
      (∀ (k : α) (value : β), map[k]? = some value → validate value = .ok ()) ∧ result = map := by
  rw [insertUnique_eq_ok, insertAll_inOrder keyed]
  constructor
  · rintro ⟨valid, -, -, equal⟩
    exact ⟨fun k value located => valid value (mem_inOrder.mpr ⟨k, located⟩), equal.symm⟩
  · rintro ⟨valid, equal⟩
    refine ⟨fun item member => ?_, fun item _ => ExtTreeMap.not_mem_empty, nodup_inOrder keyed,
      equal.symm⟩
    obtain ⟨k, located⟩ := mem_inOrder.mp member
    exact valid k item located

end Collect

end JqBle.Library.EntryMap
