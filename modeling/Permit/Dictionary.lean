/-!
# Dictionaries

Values by name, kept in the order of the names (by code point, which is also the order of their bytes in UTF-8). The
order is part of the type: an entry stands only before entries with later names, so no name stands twice. The view is
`get?`: each operation is pinned by what `get?` gives after it.
-/

namespace Permit

/-- Entries in ascending order of their keys, all of them after the key `low` if there is one. -/
inductive Entries (α : Type) : Option String → Type where
  | nil {low : Option String} : Entries α low
  | cons {low : Option String} (key : String) (value : α) (rest : Entries α (some key))
      (after : ∀ k ∈ low, k < key := by first | decide | nofun) : Entries α low

/-- Entries that may begin with any key. -/
abbrev Dictionary (α : Type) := Entries α none

namespace Entries

variable {α : Type} {low : Option String} {key : String}

@[match_pattern] abbrev single (key : String) (value : α) : Dictionary α := .cons key value .nil

def get? (key : String) : {low : Option String} → Entries α low → Option α
  | _, .nil => none
  | _, .cons k v rest _ => if k = key then some v else rest.get? key

def toList : {low : Option String} → Entries α low → List (String × α)
  | _, .nil => []
  | _, .cons k v rest _ => (k, v) :: rest.toList

def keys (d : Entries α low) : List String := d.toList.map Prod.fst

def size (d : Entries α low) : Nat := d.toList.length

def isEmpty (d : Entries α low) : Bool := d.toList.isEmpty

/-- The same entries under a lower bound. -/
def widen {first : String} : Entries α (some first) → (∀ k ∈ low, k < first) → Entries α low
  | .nil, _ => .nil
  | .cons k v rest after, below => .cons k v rest fun l hl => String.lt_trans (below l hl) (after first rfl)

theorem lt_of_ne_of_not_lt {k : String} (hne : k ≠ key) (hnot : ¬ key < k) : ∀ l ∈ some k, l < key :=
  fun _ hl => Option.mem_some.mp hl ▸ Std.lt_of_le_of_ne hnot hne

/-- Puts a value under a key after the bound; the old value under this key goes. -/
def insertAfter (key : String) (value : α) :
    {low : Option String} → Entries α low → (∀ k ∈ low, k < key) → Entries α low
  | _, .nil, below => .cons key value .nil below
  | _, .cons k v rest after, below =>
      if hk : k = key then .cons k value rest after
      else if hlt : key < k then .cons key value (.cons k v rest (by simpa using hlt)) below
      else .cons k v (rest.insertAfter key value (lt_of_ne_of_not_lt hk hlt)) after

/-- The entries that are kept. -/
def filter (keep : String → α → Bool) : {low : Option String} → Entries α low → Entries α low
  | _, .nil => .nil
  | _, .cons k v rest after =>
      if keep k v then .cons k v (rest.filter keep) after else (rest.filter keep).widen after

def erase (key : String) (d : Entries α low) : Entries α low := d.filter fun k _ => k ≠ key

@[simp] theorem get?_nil (key : String) : (nil : Entries α low).get? key = none := rfl

@[simp] theorem get?_cons (key k : String) (v : α) (rest : Entries α (some k)) (after : ∀ l ∈ low, l < k) :
    (cons k v rest after).get? key = if k = key then some v else rest.get? key := rfl

@[simp] theorem get?_widen {first : String} (d : Entries α (some first)) (below : ∀ k ∈ low, k < first) (key : String) :
    (d.widen below).get? key = d.get? key := by
  cases d <;> rfl

/-- Nothing is found under the bound, or before it. -/
theorem lt_of_get?_ne_none {d : Entries α low} (h : d.get? key ≠ none) : ∀ k ∈ low, k < key := by
  induction d with
  | nil => exact absurd rfl h
  | cons k v rest after ih =>
      intro l hl
      by_cases hk : k = key
      · exact hk ▸ after l hl
      · have hrest : rest.get? key ≠ none := by simpa [hk] using h
        exact String.lt_trans (after l hl) (ih hrest k rfl)

@[simp] theorem get?_bound (d : Entries α (some key)) : d.get? key = none :=
  Classical.byContradiction fun h => String.lt_irrefl key (lt_of_get?_ne_none h key rfl)

theorem get?_insertAfter (other : String) (value : α) (d : Entries α low) (below : ∀ k ∈ low, k < key) :
    (d.insertAfter key value below).get? other = if key = other then some value else d.get? other := by
  induction d with
  | nil => rfl
  | cons k v rest after ih =>
      unfold insertAfter
      split
      · rename_i hk
        subst hk
        by_cases ho : k = other <;> simp [ho]
      · rename_i hk
        split
        · rfl
        · rw [get?_cons, get?_cons, ih]
          by_cases ho : k = other
          · subst ho
            simp [Ne.symm hk]
          · simp [ho]

theorem get?_filter (keep : String → α → Bool) (d : Entries α low) (key : String) :
    (d.filter keep).get? key = (d.get? key).filter (keep key) := by
  induction d with
  | nil => rfl
  | cons k v rest after ih =>
      unfold filter
      by_cases hk : k = key
      · subst hk
        cases hv : keep k v <;> simp [Option.filter, hv]
      · cases keep k v <;> simp [hk, ih]

theorem get?_erase (key other : String) (d : Entries α low) :
    (d.erase key).get? other = if key = other then none else d.get? other := by
  rw [erase, get?_filter]
  by_cases h : key = other
  · cases d.get? other <;> simp [h]
  · cases d.get? other <;> simp [h, Ne.symm h]

end Entries

namespace Dictionary

variable {α : Type}

def insert (key : String) (value : α) (d : Dictionary α) : Dictionary α := d.insertAfter key value (by simp)

/-- Of several values for one key the last counts. -/
def ofList (entries : List (String × α)) : Dictionary α :=
  entries.foldl (fun d e => d.insert e.1 e.2) .nil

theorem get?_insert (key other : String) (value : α) (d : Dictionary α) :
    (d.insert key value).get? other = if key = other then some value else d.get? other :=
  d.get?_insertAfter other value _

@[simp] theorem get?_insert_self (key : String) (value : α) (d : Dictionary α) :
    (d.insert key value).get? key = some value := by
  simp [get?_insert]

end Dictionary

end Permit
