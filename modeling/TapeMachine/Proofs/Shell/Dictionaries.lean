import TapeMachine.Proofs.Shell.KeyForms

/-! Dictionaries that are built up entry by entry.
An entry that cannot be put in is lost without a word. What a dictionary holds in the end is told by
the entries that were put in: under each key there is the value that came last.
-/

namespace TapeMachine.Shell

/-- The value under a key. -/
def findValue (entries : List (Value × Value)) (key : Value) : Option Value :=
  (entries.find? (·.1.sameKey key)).map (·.2)

/-- A dictionary into which entries are put, one after the other. -/
def gather (dict entries : List (Value × Value)) : List (Value × Value) :=
  entries.foldl (fun dict entry => insertEntry dict entry.1 entry.2) dict

/-- No two keys are the same. -/
def DistinctKeys (entries : List (Value × Value)) : Prop :=
  entries.Pairwise fun a b => a.1.sameKey b.1 = false

-----------------------------------------------------------------------------------------
-- Looking up
-----------------------------------------------------------------------------------------

theorem findValue_append (front back : List (Value × Value)) (key : Value)
    : findValue (front ++ back) key = (findValue front key).or (findValue back key) := by
  rw [findValue, List.find?_append, Option.map_or]
  rfl

theorem findValue_singleton (entry : Value × Value) (key : Value)
    : findValue [entry] key = if entry.1.sameKey key then some entry.2 else none := by
  by_cases same : entry.1.sameKey key = true <;> simp [findValue, same]

theorem findValue_eq_none {entries : List (Value × Value)} {key : Value}
    (absent : ∀ entry ∈ entries, entry.1.sameKey key = false)
    : findValue entries key = none := by
  rw [findValue, Option.map_eq_none_iff, List.find?_eq_none]
  intro entry member
  simp [absent entry member]

/-- Where the keys are distinct every entry is found under its key. -/
theorem findValue_of_mem {entries : List (Value × Value)} (distinct : DistinctKeys entries)
    (entry : Value × Value) (member : entry ∈ entries) (key : entry.1.isKey = true)
    : findValue entries entry.1 = some entry.2 := by
  induction entries with
  | nil => simp at member
  | cons first rest ih =>
      obtain ⟨apart, distinct⟩ := List.pairwise_cons.mp distinct
      rw [← List.singleton_append, findValue_append, findValue_singleton]
      rcases List.mem_cons.mp member with rfl | member
      · simp [Value.sameKey_refl key]
      · rw [apart entry member, ih distinct member]
        rfl

-----------------------------------------------------------------------------------------
-- Putting one entry in
-----------------------------------------------------------------------------------------

section Insertion

variable (dict : List (Value × Value)) (key value : Value)

def replaceValue : List (Value × Value) :=
  dict.map fun entry => if entry.1.sameKey key then (entry.1, value) else entry

/-- All that putting in an entry can do. -/
theorem insertEntry_cases
    : key.isKey = false ∧ insertEntry dict key value = dict
      ∨ (∃ entry ∈ dict, entry.1.sameKey key = true)
        ∧ insertEntry dict key value = replaceValue dict key value
      ∨ key.isKey = true
        ∧ (∀ entry ∈ dict, entry.1.sameKey key = false)
        ∧ insertEntry dict key value = dict ++ [(key, value)] := by
  unfold insertEntry
  by_cases allowed : key.isKey = true
  · by_cases present : dict.any (·.1.sameKey key) = true
    · refine Or.inr (Or.inl ⟨List.any_eq_true.mp present, ?_⟩)
      simp only [allowed, present, Bool.not_true, Bool.false_eq_true, if_false, if_true]
      rfl
    · refine Or.inr (Or.inr ⟨allowed, ?_, ?_⟩)
      · simpa using present
      · simp only [allowed, present, Bool.not_true, Bool.false_eq_true, if_false]
  · exact Or.inl ⟨by simpa using allowed, by simp [allowed]⟩

@[simp]
theorem keys_replaceValue : (replaceValue dict key value).map (·.1) = dict.map (·.1) := by
  rw [replaceValue, List.map_map]
  apply List.map_congr_left
  intro entry _
  dsimp only [Function.comp]
  split <;> rfl

/-- The keys stay where they are, so each is found where it was, perhaps with the other value. -/
theorem findValue_replaceValue (other : Value)
    : findValue (replaceValue dict key value) other
      = (findValue dict other).map fun old => if key.sameKey other then value else old := by
  rw [findValue, replaceValue, List.find?_map, findValue, Option.map_map, Option.map_map]
  have same : ((·.1.sameKey other) ∘ fun entry : Value × Value =>
      if entry.1.sameKey key then (entry.1, value) else entry) = (·.1.sameKey other) := by
    funext entry
    dsimp only [Function.comp]
    split <;> rfl
  rw [same]
  apply Option.map_congr
  intro entry found
  have found : entry.1.sameKey other = true := by simpa using List.find?_some found
  dsimp only [Function.comp]
  rw [Value.sameKey_congr found key, Value.sameKey_comm other key]
  split <;> rfl

/-- Putting in an entry changes what is found under its key, and nothing else. -/
theorem findValue_insertEntry (other : Value)
    : findValue (insertEntry dict key value) other
      = (findValue [(key, value)] other).or (findValue dict other) := by
  rw [findValue_singleton]
  rcases insertEntry_cases dict key value with
    ⟨barred, result⟩ | ⟨⟨entry, member, present⟩, result⟩ | ⟨_, absent, result⟩
  · cases same : key.sameKey other with
    | true => rw [Value.isKey_of_sameKey same] at barred; contradiction
    | false => simp [result]
  · rw [result, findValue_replaceValue]
    by_cases same : key.sameKey other = true
    · -- the entry under the key is found under the other one as well
      have found : (findValue dict other).isSome = true := by
        rw [findValue, Option.isSome_map, List.find?_isSome]
        exact ⟨entry, member, by rw [Value.sameKey_congr present other]; exact same⟩
      obtain ⟨old, found⟩ := Option.isSome_iff_exists.mp found
      simp [found, same]
    · simp [same]
  · rw [result, findValue_append, findValue_singleton]
    by_cases same : key.sameKey other = true
    · have missing : findValue dict other = none := by
        apply findValue_eq_none
        intro entry member
        rw [Value.sameKey_comm, ← Value.sameKey_congr same, Value.sameKey_comm]
        exact absent entry member
      simp [missing, same]
    · simp [same]

theorem keys_insertEntry
    : ((insertEntry dict key value).map (·.1)).Sublist (dict.map (·.1) ++ [key]) := by
  rcases insertEntry_cases dict key value with ⟨_, result⟩ | ⟨_, result⟩ | ⟨_, _, result⟩
  · simp [result]
  · simp [result]
  · simp [result]

end Insertion

/-- The keys of a dictionary: all of them may be keys, and no two are the same. -/
structure WellKeyed (dict : List (Value × Value)) : Prop where
  keys : ∀ entry ∈ dict, entry.1.isKey = true
  distinct : DistinctKeys dict

namespace WellKeyed

variable {dict : List (Value × Value)}

theorem nil : WellKeyed [] := ⟨by simp, List.Pairwise.nil⟩

theorem iff_and : WellKeyed dict ↔ (∀ entry ∈ dict, entry.1.isKey = true) ∧ DistinctKeys dict :=
  ⟨fun keyed => ⟨keyed.keys, keyed.distinct⟩, fun ⟨keys, distinct⟩ => ⟨keys, distinct⟩⟩

theorem iff_keys
    : WellKeyed dict
      ↔ (∀ key ∈ dict.map (·.1), key.isKey = true)
        ∧ (dict.map (·.1)).Pairwise fun a b => a.sameKey b = false := by
  rw [List.pairwise_map, List.forall_mem_map]
  exact iff_and

theorem inserted (keyed : WellKeyed dict) (key value : Value)
    : WellKeyed (insertEntry dict key value) := by
  rcases insertEntry_cases dict key value with ⟨_, result⟩ | ⟨_, result⟩ | ⟨allowed, absent, result⟩
  · rwa [result]
  · rw [result, iff_keys, keys_replaceValue]
    exact iff_keys.mp keyed
  · rw [result]
    constructor
    · intro entry member
      rcases List.mem_append.mp member with old | new
      · exact keyed.keys entry old
      · rw [List.mem_singleton.mp new]
        exact allowed
    · apply List.pairwise_append.mpr
      refine ⟨keyed.distinct, List.pairwise_singleton _ _, ?_⟩
      intro entry member new same
      rw [List.mem_singleton.mp same]
      exact absent entry member

end WellKeyed

-----------------------------------------------------------------------------------------
-- Putting entries in one after the other
-----------------------------------------------------------------------------------------

section Gathering

variable (dict entries : List (Value × Value))

theorem WellKeyed.gathered {dict : List (Value × Value)} (keyed : WellKeyed dict)
    : WellKeyed (gather dict entries) := by
  induction entries generalizing dict with
  | nil => exact keyed
  | cons entry rest ih => exact ih (keyed.inserted entry.1 entry.2)

/-- The last entry under a key decides. -/
theorem findValue_gather (key : Value)
    : findValue (gather dict entries) key
      = (findValue entries.reverse key).or (findValue dict key) := by
  induction entries generalizing dict with
  | nil => rfl
  | cons entry rest ih =>
      rw [gather, List.foldl_cons, ← gather, ih, findValue_insertEntry, List.reverse_cons,
        findValue_append, Option.or_assoc]

theorem keys_gather
    : ((gather dict entries).map (·.1)).Sublist (dict.map (·.1) ++ entries.map (·.1)) := by
  induction entries generalizing dict with
  | nil => simp [gather]
  | cons entry rest ih =>
      rw [gather, List.foldl_cons, ← gather]
      apply (ih _).trans
      rw [List.map_cons, ← List.singleton_append, ← List.append_assoc]
      exact (keys_insertEntry dict entry.1 entry.2).append_right _

/-- Entries that are well keyed all go in. -/
theorem gather_eq_append (keyed : WellKeyed (dict ++ entries))
    : gather dict entries = dict ++ entries := by
  induction entries generalizing dict with
  | nil => simp [gather]
  | cons entry rest ih =>
      have added : insertEntry dict entry.1 entry.2 = dict ++ [entry] := by
        obtain ⟨_, _, apart⟩ := List.pairwise_append.mp keyed.distinct
        have fresh : dict.any (·.1.sameKey entry.1) = false := by
          rw [List.any_eq_false]
          intro old member
          simp [apart old member entry List.mem_cons_self]
        simp [insertEntry, keyed.keys entry (by simp), fresh]
      rw [gather, List.foldl_cons, added, ← gather, ih]
      · simp
      · simpa using keyed

end Gathering

/-- A dictionary that was built up from entries. -/
structure Gathers (entries dict : List (Value × Value)) : Prop where
  keyed : WellKeyed dict
  /-- Its keys are among those of the entries, in the same order. -/
  order : (dict.map (·.1)).Sublist (entries.map (·.1))
  /-- Under every key there is the value of the last entry with that key, if there is one. -/
  found : ∀ key, findValue dict key = findValue entries.reverse key
  /-- Entries that are well keyed are the dictionary. -/
  whole : WellKeyed entries → dict = entries

theorem gathers_gather (entries : List (Value × Value)) : Gathers entries (gather [] entries) where
  keyed := WellKeyed.nil.gathered entries
  order := by simpa using keys_gather [] entries
  found key := by
    rw [findValue_gather]
    exact Option.or_none
  whole keyed := gather_eq_append [] entries keyed

/-- A dictionary has one entry for each of the entries, and each is found under its key. -/
structure Keeps (entries dict : List (Value × Value)) : Prop where
  length : dict.length = entries.length
  found : ∀ entry ∈ entries, findValue dict entry.1 = some entry.2

namespace Gathers

variable {entries dict : List (Value × Value)}

/-- Nothing is lost exactly if the entries are well keyed. -/
theorem keeps_iff (gathers : Gathers entries dict) : Keeps entries dict ↔ WellKeyed entries := by
  constructor
  · intro keeps
    have same : dict.map (·.1) = entries.map (·.1) :=
      gathers.order.eq_of_length (by simpa using keeps.length)
    rw [WellKeyed.iff_keys, ← same]
    exact WellKeyed.iff_keys.mp gathers.keyed
  · intro keyed
    rw [gathers.whole keyed]
    exact ⟨rfl, fun entry member =>
      findValue_of_mem keyed.distinct entry member (keyed.keys entry member)⟩

end Gathers

end TapeMachine.Shell
