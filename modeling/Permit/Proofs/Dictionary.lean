import Permit.Dictionary

/-!
# Laws of dictionaries

A dictionary is given by what is found in it. So two ways to change one are the same when they leave the same values under
the same keys, and what is read off it in one way is what is read off it in another.
-/

namespace Permit

namespace Entries

variable {α β : Type} {low : Option String} {key : String} {value : α} {d e : Entries α low}

/-! ## Given by look-ups -/

theorem get?_rest {k : String} {v : α} {rest : Entries α (some k)} (key : String) (after : ∀ l ∈ low, l < k) :
    rest.get? key = if k = key then none else (cons k v rest after).get? key := by
  by_cases hk : k = key
  · subst hk
    simp
  · simp [hk]

/-- What comes before the first key is not there. -/
theorem get?_of_lt {k : String} {v : α} {rest : Entries α (some k)} {after : ∀ l ∈ low, l < k} (h : key < k) :
    (cons k v rest after).get? key = none :=
  Classical.byContradiction fun hfound => by
    have hne : k ≠ key := (String.ne_of_lt h).symm
    have hrest : rest.get? key ≠ none := by simpa [hne] using hfound
    exact String.lt_asymm h (lt_of_get?_ne_none hrest k rfl)

/-- Dictionaries with the same values under the same keys are the same. -/
theorem ext (h : ∀ key, d.get? key = e.get? key) : d = e := by
  induction d with
  | nil =>
      cases e with
      | nil => rfl
      | cons l w rest after => simpa using h l
  | cons k v rest after ih =>
      cases e with
      | nil => simpa using h k
      | cons l w rest' after' =>
          -- Of two different first keys the smaller is found in one of the dictionaries only.
          have hkl : k = l := by
            rcases Std.lt_trichotomy k l with hlt | heq | hgt
            · simpa using (h k).trans (get?_of_lt hlt)
            · exact heq
            · simpa using (h l).symm.trans (get?_of_lt hgt)
          subst hkl
          have hvw : v = w := by simpa using h k
          have hrest : rest = rest' := by
            refine ih fun key => ?_
            rw [get?_rest (v := v) key after, get?_rest (v := w) key after', h key]
          rw [hvw, hrest]

/-! ## Entries and keys -/

theorem get?_eq_some_iff : d.get? key = some value ↔ (key, value) ∈ d.toList := by
  induction d with
  | nil => simp [toList]
  | cons k v rest after ih =>
      by_cases hk : k = key
      · subst hk
        simp [toList, ← ih, eq_comm]
      · simp [toList, ← ih, hk, Ne.symm hk]

theorem mem_keys : key ∈ d.keys ↔ (d.get? key).isSome = true := by
  simp [keys, Option.isSome_iff_exists, get?_eq_some_iff]

@[simp] theorem length_keys (d : Entries α low) : d.keys.length = d.size := List.length_map _

@[simp] theorem isEmpty_keys (d : Entries α low) : d.keys.isEmpty = d.isEmpty := List.isEmpty_map

/-- The keys ascend. -/
theorem pairwise_toList (d : Entries α low) : d.toList.Pairwise fun a b => a.1 < b.1 := by
  induction d with
  | nil => exact .nil
  | cons k v rest after ih =>
      refine List.pairwise_cons.mpr ⟨fun entry hentry => ?_, ih⟩
      have hfound : rest.get? entry.1 ≠ none := by simp [get?_eq_some_iff.mpr hentry]
      exact lt_of_get?_ne_none hfound k rfl

theorem pairwise_ne (d : Entries α low) : d.toList.Pairwise fun a b => a.1 ≠ b.1 :=
  d.pairwise_toList.imp String.ne_of_lt

theorem nodup_keys (d : Entries α low) : d.keys.Nodup := List.pairwise_map.mpr d.pairwise_ne

example : (Dictionary.ofList [("see", 1), ("edit", 2), ("see", 3)]).toList = [("edit", 2), ("see", 3)] := by decide

/-! ## Changes -/

@[simp] theorem toList_widen {first : String} (d : Entries α (some first)) (below : ∀ k ∈ low, k < first) :
    (d.widen below).toList = d.toList := by
  cases d <;> rfl

@[simp] theorem size_widen {first : String} (d : Entries α (some first)) (below : ∀ k ∈ low, k < first) :
    (d.widen below).size = d.size :=
  congrArg List.length (d.toList_widen below)

@[simp] theorem size_cons {k : String} {v : α} {rest : Entries α (some k)} {after : ∀ l ∈ low, l < k} :
    (cons k v rest after).size = rest.size + 1 := rfl

/-- Each value becomes another under its key. -/
def map (f : α → β) : {low : Option String} → Entries α low → Entries β low
  | _, .nil => .nil
  | _, .cons k v rest after => .cons k (f v) (rest.map f) after

theorem get?_map (f : α → β) (d : Entries α low) (key : String) : (d.map f).get? key = (d.get? key).map f := by
  induction d with
  | nil => rfl
  | cons k v rest after ih => by_cases hk : k = key <;> simp [map, hk, ih]

theorem toList_map (f : α → β) (d : Entries α low) : (d.map f).toList = d.toList.map fun entry => (entry.1, f entry.2) := by
  induction d with
  | nil => rfl
  | cons k v rest after ih => simp [map, toList, ih]

theorem keys_map (f : α → β) (d : Entries α low) : (d.map f).keys = d.keys := by
  simp [keys, toList_map, Function.comp_def]

theorem toList_filter (keep : String → α → Bool) (d : Entries α low) :
    (d.filter keep).toList = d.toList.filter fun entry => keep entry.1 entry.2 := by
  induction d with
  | nil => rfl
  | cons k v rest after ih => cases hv : keep k v <;> simp [filter, toList, hv, ih]

theorem filter_filter (p q : String → α → Bool) (d : Entries α low) :
    (d.filter p).filter q = d.filter fun k v => p k v && q k v := by
  refine ext fun key => ?_
  rw [get?_filter, get?_filter, get?_filter, Option.filter_filter]

theorem erase_of_get?_none (h : d.get? key = none) : d.erase key = d := by
  refine ext fun other => ?_
  rw [get?_erase]
  split
  · rename_i heq
    rw [← heq, h]
  · rfl

theorem erase_cons {k : String} {v : α} {rest : Entries α (some k)} (key : String) (after : ∀ l ∈ low, l < k) :
    (cons k v rest after).erase key =
      if k = key then (rest.erase key).widen after else .cons k v (rest.erase key) after := by
  by_cases hk : k = key <;> simp [erase, filter, hk]

theorem size_erase (h : d.get? key = some value) : (d.erase key).size + 1 = d.size := by
  induction d with
  | nil => cases h
  | cons k v rest after ih =>
      by_cases hk : k = key
      · subst hk
        simp [erase_cons, erase_of_get?_none rest.get?_bound]
      · have hrest : rest.get? key = some value := by simpa [hk] using h
        simpa [erase_cons, hk] using ih hrest

end Entries

namespace Dictionary

variable {α : Type}

theorem insert_insert (key : String) (v w : α) (d : Dictionary α) :
    (d.insert key v).insert key w = d.insert key w := by
  refine Entries.ext fun other => ?_
  rw [get?_insert, get?_insert, get?_insert]
  split <;> rfl

end Dictionary

end Permit
