/-!
Dictionaries with text keys, kept in the order of the keys' code points.

Each key occurs once, so two dictionaries with the same entries are equal. `get?_insert` is the
law of writing: the last value written under a key is the one that is found, and every other key
is undisturbed.
-/

set_option autoImplicit false

namespace KeyedQuery

/-- Put a value under a key in a list of entries that is ordered by key, replacing the value that
the key had. -/
def insertEntry {Value : Type} (key : String) (value : Value) :
    List (String × Value) → List (String × Value)
  | [] => [(key, value)]
  | entry :: rest =>
      if key < entry.1 then (key, value) :: entry :: rest
      else if entry.1 < key then entry :: insertEntry key value rest
      else (key, value) :: rest

def orderedEntries {Value : Type} (written : List (String × Value)) : List (String × Value) :=
  written.foldl (fun entries entry => insertEntry entry.1 entry.2 entries) []

def KeysAscend {Value : Type} (entries : List (String × Value)) : Prop :=
  entries.Pairwise fun earlier later => earlier.1 < later.1

instance {Value : Type} (entries : List (String × Value)) : Decidable (KeysAscend entries) :=
  inferInstanceAs (Decidable (entries.Pairwise fun earlier later => earlier.1 < later.1))

theorem KeysAscend.of_names {Value : Type} {entries : List (String × Value)}
    (names : List String) (written : entries.map Prod.fst = names)
    (ascend : names.Pairwise (· < ·)) : KeysAscend entries := by
  rw [← written, List.pairwise_map] at ascend
  exact ascend

theorem key_of_mem_insertEntry {Value : Type} {key : String} {value : Value}
    {entries : List (String × Value)} {entry : String × Value}
    (member : entry ∈ insertEntry key value entries) :
    entry = (key, value) ∨ entry ∈ entries := by
  induction entries with
  | nil =>
      exact Or.inl (by simpa [insertEntry] using member)
  | cons head tail ih =>
      unfold insertEntry at member
      split at member
      · simpa using member
      · split at member
        · rcases List.mem_cons.mp member with isHead | inTail
          · exact Or.inr (by simp [isHead])
          · rcases ih inTail with isNew | old
            · exact Or.inl isNew
            · exact Or.inr (by simp [old])
        · rcases List.mem_cons.mp member with isNew | old
          · exact Or.inl isNew
          · exact Or.inr (by simp [old])

private theorem eq_of_not_lt {left right : String} (notLess : ¬ left < right)
    (notGreater : ¬ right < left) : left = right :=
  String.le_antisymm (String.not_lt.mp notGreater) (String.not_lt.mp notLess)

theorem KeysAscend.insertEntry {Value : Type} {entries : List (String × Value)}
    (ascend : KeysAscend entries) (key : String) (value : Value) :
    KeysAscend (insertEntry key value entries) := by
  induction entries with
  | nil => simp [KeysAscend, KeyedQuery.insertEntry]
  | cons head tail ih =>
      have later : ∀ entry ∈ tail, head.1 < entry.1 := (List.pairwise_cons.mp ascend).1
      have tailAscend : KeysAscend tail := (List.pairwise_cons.mp ascend).2
      unfold KeyedQuery.insertEntry
      split
      · rename_i before
        refine List.pairwise_cons.mpr ⟨?_, ascend⟩
        intro entry member
        rcases List.mem_cons.mp member with isHead | inTail
        · exact isHead ▸ before
        · exact String.lt_trans before (later entry inTail)
      · split
        · rename_i behind
          refine List.pairwise_cons.mpr ⟨?_, ih tailAscend⟩
          intro entry member
          rcases key_of_mem_insertEntry member with isNew | old
          · exact isNew ▸ behind
          · exact later entry old
        · rename_i notBefore notBehind
          have same : key = head.1 := eq_of_not_lt notBefore notBehind
          refine List.pairwise_cons.mpr ⟨?_, tailAscend⟩
          intro entry member
          exact same ▸ later entry member

theorem lookup_entry_cons {Value : Type} (wanted : String) (entry : String × Value)
    (rest : List (String × Value)) :
    (entry :: rest).lookup wanted =
      if wanted = entry.1 then some entry.2 else rest.lookup wanted := by
  rw [List.lookup_cons]
  by_cases same : wanted = entry.1
  · rw [if_pos same, beq_iff_eq.mpr same]
  · rw [if_neg same, beq_eq_false_iff_ne.mpr same]

/-- The last value written under a key is the one that is found. -/
theorem lookup_insertEntry {Value : Type} (key wanted : String) (value : Value)
    (entries : List (String × Value)) :
    (insertEntry key value entries).lookup wanted =
      if wanted = key then some value else entries.lookup wanted := by
  induction entries with
  | nil => exact lookup_entry_cons wanted (key, value) []
  | cons head tail ih =>
      unfold insertEntry
      split
      · exact lookup_entry_cons wanted (key, value) (head :: tail)
      · split
        · rename_i behind
          rw [lookup_entry_cons, ih, lookup_entry_cons]
          by_cases isHead : wanted = head.1
          · have different : ¬ wanted = key := by
              intro same
              rw [← same, isHead] at behind
              exact String.lt_irrefl _ behind
            rw [if_pos isHead, if_neg different]
            exact (if_pos isHead).symm
          · rw [if_neg isHead, if_neg isHead]
        · rename_i notBefore notBehind
          have sameKey : key = head.1 := eq_of_not_lt notBefore notBehind
          rw [lookup_entry_cons, lookup_entry_cons]
          by_cases same : wanted = key
          · rw [if_pos same, if_pos same]
          · rw [if_neg same, if_neg same, if_neg (fun isHead => same (isHead.trans sameKey.symm))]

theorem keysAscend_orderedEntries {Value : Type} (written : List (String × Value)) :
    KeysAscend (orderedEntries written) := by
  unfold orderedEntries
  have keeps : ∀ (pending start : List (String × Value)), KeysAscend start →
      KeysAscend (pending.foldl (fun entries entry => insertEntry entry.1 entry.2 entries) start) := by
    intro pending
    induction pending with
    | nil => intro start ascend; exact ascend
    | cons head tail ih => intro start ascend; exact ih _ (ascend.insertEntry head.1 head.2)
  exact keeps written [] List.Pairwise.nil

structure Dictionary (Value : Type) where
  entries : List (String × Value)
  ordered : KeysAscend entries

namespace Dictionary

variable {Value : Type}

def empty : Dictionary Value :=
  ⟨[], List.Pairwise.nil⟩

instance : EmptyCollection (Dictionary Value) := ⟨empty⟩

def insert (dictionary : Dictionary Value) (key : String) (value : Value) : Dictionary Value :=
  ⟨insertEntry key value dictionary.entries, dictionary.ordered.insertEntry key value⟩

def insertAll (dictionary : Dictionary Value) (written : List (String × Value)) :
    Dictionary Value :=
  written.foldl (fun filled entry => filled.insert entry.1 entry.2) dictionary

def get? (dictionary : Dictionary Value) (key : String) : Option Value :=
  dictionary.entries.lookup key

def size (dictionary : Dictionary Value) : Nat :=
  dictionary.entries.length

@[simp] theorem get?_empty (key : String) : (empty : Dictionary Value).get? key = none := rfl

@[simp] theorem get?_insert (dictionary : Dictionary Value) (key wanted : String)
    (value : Value) :
    (dictionary.insert key value).get? wanted =
      if wanted = key then some value else dictionary.get? wanted :=
  lookup_insertEntry key wanted value dictionary.entries

end Dictionary

end KeyedQuery
