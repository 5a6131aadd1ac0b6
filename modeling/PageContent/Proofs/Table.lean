import Mathlib.Data.List.Nodup
import Mathlib.Data.List.Perm.Basic
import PageContent.Document.Table

namespace PageContent.Table

variable {κ ν β : Type} [DecidableEq κ]

theorem get?_eq_some_iff {t : Table κ ν} {k : κ} {v : ν} : t.get? k = some v ↔ (k, v) ∈ t.entries := by
  simp only [get?, Option.map_eq_some_iff]
  constructor
  · rintro ⟨⟨k', v'⟩, found, rfl⟩
    have hk : k' = k := by simpa using List.find?_some found
    exact hk ▸ List.mem_of_find?_eq_some found
  · intro mem
    cases found : t.entries.find? (·.1 = k) with
    | none => simpa using List.find?_eq_none.mp found (k, v) mem
    | some e =>
        have hk : e.1 = k := by simpa using List.find?_some found
        exact ⟨e, rfl, congrArg Prod.snd
          (List.inj_on_of_nodup_map t.nodup (List.mem_of_find?_eq_some found) mem hk)⟩

theorem mem_keys_iff {t : Table κ ν} {k : κ} : k ∈ t.keys ↔ ∃ v, t.get? k = some v := by
  simp only [get?_eq_some_iff, keys, List.mem_map, Prod.exists]
  constructor
  · rintro ⟨_, v, mem, rfl⟩
    exact ⟨v, mem⟩
  · rintro ⟨v, mem⟩
    exact ⟨k, v, mem, rfl⟩

theorem mem_keys_of_get? {t : Table κ ν} {k : κ} {v : ν} (found : t.get? k = some v) : k ∈ t.keys :=
  mem_keys_iff.mpr ⟨v, found⟩

theorem get?_of_grow {t t' : Table κ ν} {k : κ} (grow : t.entries <+: t'.entries) (mem : k ∈ t.keys) :
    t'.get? k = t.get? k := by
  obtain ⟨v, found⟩ := mem_keys_iff.mp mem
  rw [found, get?_eq_some_iff]
  exact grow.subset (get?_eq_some_iff.mp found)

theorem get?_eq_none_iff {t : Table κ ν} {k : κ} : t.get? k = none ↔ k ∉ t.keys := by
  rw [mem_keys_iff, Option.eq_none_iff_forall_ne_some, not_exists]

theorem contains_iff {t : Table κ ν} {k : κ} : t.contains k = true ↔ k ∈ t.keys := by
  rw [contains, Option.isSome_iff_exists, mem_keys_iff]

theorem mem_values_iff {t : Table κ ν} {v : ν} : v ∈ t.values ↔ ∃ k, t.get? k = some v := by
  simp [values, get?_eq_some_iff]

omit [DecidableEq κ] in
theorem length_keys (t : Table κ ν) : t.keys.length = t.size := List.length_map _

theorem entries_insert_of_not_mem {t : Table κ ν} {k : κ} (fresh : k ∉ t.keys) (v : ν) :
    (t.insert k v).entries = t.entries ++ [(k, v)] := by
  rw [insert, dif_neg fresh]

theorem entries_insert_of_mem {t : Table κ ν} {k : κ} (mem : k ∈ t.keys) (v : ν) :
    (t.insert k v).entries = t.entries.map fun e => if e.1 = k then (k, v) else e := by
  rw [insert, dif_pos mem]

omit [DecidableEq κ] in
theorem fst_ne_of_not_mem {t : Table κ ν} {k : κ} (fresh : k ∉ t.keys) : ∀ e ∈ t.entries, e.1 ≠ k :=
  fun _ he same => fresh (same ▸ List.mem_map_of_mem he)

@[simp] theorem keys_erase (t : Table κ ν) (k : κ) : (t.erase k).keys = t.keys.filter (· ≠ k) := by
  simp only [keys, erase, List.filter_map]
  rfl

theorem keys_insert_of_mem {t : Table κ ν} {k : κ} (mem : k ∈ t.keys) (v : ν) :
    (t.insert k v).keys = t.keys := by
  rw [keys, entries_insert_of_mem mem, keys_replace, keys]

theorem keys_insert_of_not_mem {t : Table κ ν} {k : κ} (fresh : k ∉ t.keys) (v : ν) :
    (t.insert k v).keys = t.keys ++ [k] := by
  simp [keys, entries_insert_of_not_mem fresh]

theorem mem_keys_insert {t : Table κ ν} {k k' : κ} {v : ν} :
    k' ∈ (t.insert k v).keys ↔ k' = k ∨ k' ∈ t.keys := by
  by_cases mem : k ∈ t.keys
  · rw [keys_insert_of_mem mem]
    exact ⟨.inr, fun h => h.elim (fun e => e ▸ mem) id⟩
  · rw [keys_insert_of_not_mem mem, List.mem_append, List.mem_singleton, or_comm]

theorem mem_keys_erase {t : Table κ ν} {k k' : κ} : k' ∈ (t.erase k).keys ↔ k' ∈ t.keys ∧ k' ≠ k := by
  simp

theorem replace_eq_self {entries : List (κ × ν)} {k : κ} (others : ∀ e ∈ entries, e.1 ≠ k) (v : ν) :
    (entries.map fun e => if e.1 = k then (k, v) else e) = entries :=
  (List.map_congr_left fun e he => if_neg (others e he)).trans (List.map_id' entries)

/-- An entry splits the entries of a table in two parts which neither an overwrite nor a removal of that
entry changes. -/
theorem split_of_get? {t : Table κ ν} {k : κ} {v : ν} (found : t.get? k = some v) :
    ∃ left right, t.entries = left ++ (k, v) :: right ∧
      (∀ w, (t.insert k w).entries = left ++ (k, w) :: right) ∧ (t.erase k).entries = left ++ right := by
  obtain ⟨left, right, split⟩ := List.append_of_mem (get?_eq_some_iff.mp found)
  have nodup : (left.map (·.1) ++ k :: right.map (·.1)).Nodup := by simpa [split] using t.nodup
  have notLeft : ∀ e ∈ left, e.1 ≠ k := by
    intro e he same
    exact (List.nodup_append.mp nodup).2.2 e.1 (List.mem_map_of_mem he) k List.mem_cons_self same
  have notRight : ∀ e ∈ right, e.1 ≠ k := by
    intro e he same
    exact (List.nodup_cons.mp (List.nodup_append.mp nodup).2.1).1 (same ▸ List.mem_map_of_mem he)
  refine ⟨left, right, split, fun w => ?_, ?_⟩
  · rw [entries_insert_of_mem (mem_keys_of_get? found), split, List.map_append, List.map_cons, if_pos rfl,
      replace_eq_self notLeft, replace_eq_self notRight]
  · have keepLeft : left.filter (·.1 ≠ k) = left := List.filter_eq_self.mpr (by simpa using notLeft)
    have keepRight : right.filter (·.1 ≠ k) = right := List.filter_eq_self.mpr (by simpa using notRight)
    simp only [erase, split, List.filter_append, keepLeft]
    simpa using keepRight

@[simp] theorem get?_insert_self (t : Table κ ν) (k : κ) (v : ν) : (t.insert k v).get? k = some v := by
  rw [get?_eq_some_iff]
  by_cases mem : k ∈ t.keys
  · obtain ⟨old, found⟩ := mem_keys_iff.mp mem
    obtain ⟨left, right, -, replaced, -⟩ := split_of_get? found
    simp [replaced]
  · simp [entries_insert_of_not_mem mem]

theorem get?_insert_of_ne {t : Table κ ν} {k k' : κ} (v : ν) (other : k' ≠ k) :
    (t.insert k v).get? k' = t.get? k' := by
  refine Option.ext fun w => ?_
  rw [get?_eq_some_iff, get?_eq_some_iff]
  by_cases mem : k ∈ t.keys
  · obtain ⟨old, found⟩ := mem_keys_iff.mp mem
    obtain ⟨left, right, split, replaced, -⟩ := split_of_get? found
    simp [split, replaced, other]
  · simp [entries_insert_of_not_mem mem, other]

theorem get?_insert (t : Table κ ν) (k k' : κ) (v : ν) :
    (t.insert k v).get? k' = if k' = k then some v else t.get? k' := by
  by_cases same : k' = k
  · rw [if_pos same, same, get?_insert_self]
  · rw [if_neg same, get?_insert_of_ne v same]

theorem get?_erase (t : Table κ ν) (k k' : κ) :
    (t.erase k).get? k' = if k' = k then none else t.get? k' := by
  refine Option.ext fun v => ?_
  by_cases same : k' = k <;> simp [get?_eq_some_iff, erase, same]

theorem get?_of_get?_erase {t : Table κ ν} {k k' : κ} {v : ν} (found : (t.erase k).get? k' = some v) :
    t.get? k' = some v := by
  rw [get?_erase] at found
  split at found
  · cases found
  · exact found

theorem insert_self {t : Table κ ν} {k : κ} {v : ν} (found : t.get? k = some v) : t.insert k v = t := by
  obtain ⟨left, right, split, replaced, -⟩ := split_of_get? found
  exact Table.ext ((replaced v).trans split.symm)

theorem insert_insert (t : Table κ ν) (k : κ) (v w : ν) : (t.insert k v).insert k w = t.insert k w := by
  refine Table.ext ?_
  rw [entries_insert_of_mem (mem_keys_of_get? (get?_insert_self t k v))]
  by_cases mem : k ∈ t.keys
  · rw [entries_insert_of_mem mem, entries_insert_of_mem mem, List.map_map]
    refine List.map_congr_left fun e _ => ?_
    by_cases same : e.1 = k <;> simp [same]
  · rw [entries_insert_of_not_mem mem, entries_insert_of_not_mem mem, List.map_append,
      replace_eq_self (fst_ne_of_not_mem mem)]
    simp

theorem erase_insert {t : Table κ ν} {k : κ} (fresh : k ∉ t.keys) (v : ν) : (t.insert k v).erase k = t := by
  refine Table.ext ?_
  simpa [erase, entries_insert_of_not_mem fresh] using fst_ne_of_not_mem fresh

theorem erase_of_not_mem {t : Table κ ν} {k : κ} (absent : k ∉ t.keys) : t.erase k = t :=
  Table.ext (List.filter_eq_self.mpr (by simpa using fst_ne_of_not_mem absent))

theorem entries_foldl_erase (t : Table κ ν) (ks : List κ) :
    (ks.foldl Table.erase t).entries = t.entries.filter fun e => e.1 ∉ ks := by
  induction ks generalizing t with
  | nil => simp
  | cons k ks ih =>
      rw [List.foldl_cons, ih, erase, List.filter_filter]
      refine List.filter_congr fun e _ => ?_
      by_cases same : e.1 = k <;> simp [same]

theorem mem_keys_foldl_erase {t : Table κ ν} {ks : List κ} {k : κ} :
    k ∈ (ks.foldl Table.erase t).keys ↔ k ∈ t.keys ∧ k ∉ ks := by
  rw [keys, entries_foldl_erase]
  simp only [List.mem_map, List.mem_filter, decide_eq_true_eq, keys]
  constructor
  · rintro ⟨e, ⟨mem, kept⟩, rfl⟩
    exact ⟨⟨e, mem, rfl⟩, kept⟩
  · rintro ⟨⟨e, mem, rfl⟩, kept⟩
    exact ⟨e, ⟨mem, kept⟩, rfl⟩

theorem foldl_erase_perm {ks ks' : List κ} (same : ks.Perm ks') (t : Table κ ν) :
    ks.foldl Table.erase t = ks'.foldl Table.erase t := by
  refine Table.ext ?_
  rw [entries_foldl_erase, entries_foldl_erase]
  exact List.filter_congr fun e _ => decide_eq_decide.mpr (not_congr same.mem_iff)

theorem foldl_erase_insert {t : Table κ ν} {ks : List κ} {k : κ} (fresh : k ∉ t.keys) (kept : k ∉ ks)
    (v : ν) :
    ks.foldl Table.erase (t.insert k v) = (ks.foldl Table.erase t).insert k v := by
  refine Table.ext ?_
  have gone : k ∉ (ks.foldl Table.erase t).keys := fun mem => fresh (mem_keys_foldl_erase.mp mem).1
  rw [entries_foldl_erase, entries_insert_of_not_mem fresh, entries_insert_of_not_mem gone,
    entries_foldl_erase, List.filter_append]
  simp [kept]

theorem get?_foldl_erase (t : Table κ ν) (ks : List κ) (k : κ) :
    (ks.foldl Table.erase t).get? k = if k ∈ ks then none else t.get? k := by
  induction ks generalizing t with
  | nil => rfl
  | cons first ks ih =>
      rw [List.foldl_cons, ih, get?_erase]
      by_cases mem : k ∈ ks <;> by_cases same : k = first <;> simp [mem, same]

theorem get?_of_get?_foldl_erase {t : Table κ ν} {ks : List κ} {k : κ} {v : ν}
    (found : (ks.foldl Table.erase t).get? k = some v) : t.get? k = some v := by
  rw [get?_foldl_erase] at found
  split at found
  · cases found
  · exact found

theorem flatMap_values_perm {t : Table κ ν} {k : κ} {v : ν} (found : t.get? k = some v) (f : ν → List β) :
    ∃ rest, (t.values.flatMap f).Perm (f v ++ rest) ∧
      (∀ w, ((t.insert k w).values.flatMap f).Perm (f w ++ rest)) ∧
        ((t.erase k).values.flatMap f).Perm rest := by
  obtain ⟨left, right, split, replaced, erased⟩ := split_of_get? found
  have shape (w : ν) : ((left ++ (k, w) :: right).map (·.2)).flatMap f =
      (left.map (·.2)).flatMap f ++ (f w ++ (right.map (·.2)).flatMap f) := by
    simp
  refine ⟨(left.map (·.2)).flatMap f ++ (right.map (·.2)).flatMap f, ?_, fun w => ?_, ?_⟩
  · rw [values, split, shape]
    exact List.perm_append_comm_assoc _ _ _
  · rw [values, replaced, shape]
    exact List.perm_append_comm_assoc _ _ _
  · simp [values, erased]

theorem flatMap_values_insert {t : Table κ ν} {k : κ} (fresh : k ∉ t.keys) (v : ν) (f : ν → List β) :
    (t.insert k v).values.flatMap f = t.values.flatMap f ++ f v := by
  simp [values, entries_insert_of_not_mem fresh]

end PageContent.Table
