/-
# Entries by key

An association list that entries are put into one at a time: each key stands once, and looking a
key up gives the value that was put there last.

## Main results

* `Text.lookup_upsert`: what is found after an entry was put in;
* `Text.foldl_upsert`: entries with different keys that are put in one after the other;
* `Text.lookup_foldl_upsert`: of several entries with one key the last is found;
* `Text.map_sortKeys`, `Text.sortKeys_perm`: sorting by key.
-/

import Accord.Text.Basic

namespace Accord.Text

variable {α : Type}

/-- The entry that was put in is found, and all others are as before. -/
theorem lookup_upsert (key name : Text) (v : α) (entries : List (Text × α)) :
    (upsert key v entries).lookup name = if name = key then some v else entries.lookup name := by
  induction entries with
  | nil =>
    by_cases hn : name = key
    · simp [upsert, hn]
    · simp [upsert, hn, List.lookup_cons, beq_false_of_ne hn]
  | cons entry rest ih =>
    obtain ⟨k, u⟩ := entry
    by_cases hk : k = key
    · subst hk
      by_cases hn : name = k
      · simp [upsert, hn]
      · simp [upsert, hn, List.lookup_cons, beq_false_of_ne hn]
    · rw [upsert, if_neg hk, List.lookup_cons, List.lookup_cons, ih]
      by_cases hn : name = k
      · simp [hn, hk]
      · simp [beq_false_of_ne hn]

/-- Of two entries with one key, the second replaces the first. -/
theorem upsert_upsert (key : Text) (u v : α) (entries : List (Text × α)) :
    upsert key v (upsert key u entries) = upsert key v entries := by
  induction entries with
  | nil => simp [upsert]
  | cons entry rest ih =>
    obtain ⟨k, w⟩ := entry
    by_cases hk : k = key
    · simp [upsert, hk]
    · simp [upsert, hk, ih]

/-- An entry with a new key comes last. -/
theorem upsert_of_not_mem {key : Text} {entries : List (Text × α)}
    (h : key ∉ entries.map (·.1)) (v : α) : upsert key v entries = entries ++ [(key, v)] := by
  induction entries with
  | nil => rfl
  | cons entry rest ih =>
    rw [List.map_cons, List.mem_cons, not_or] at h
    rw [upsert, if_neg (Ne.symm h.1), ih h.2, List.cons_append]

/-- Values do not matter for where an entry is put. -/
theorem map_upsert {β : Type} (f : α → β) (key : Text) (v : α) (entries : List (Text × α)) :
    (upsert key v entries).map (fun entry => (entry.1, f entry.2)) =
      upsert key (f v) (entries.map fun entry => (entry.1, f entry.2)) := by
  induction entries with
  | nil => rfl
  | cons entry rest ih =>
    obtain ⟨k, u⟩ := entry
    by_cases hk : k = key
    · simp [upsert, hk]
    · simp only [upsert, hk, if_false, List.map_cons, ih]

/-- Entries with different keys stay in order when they are put in one after the other. -/
theorem foldl_upsert (held : List (Text × α)) {entries : List (Text × α)}
    (h : ((held ++ entries).map (·.1)).Nodup) :
    entries.foldl (fun sofar entry => upsert entry.1 entry.2 sofar) held = held ++ entries := by
  induction entries generalizing held with
  | nil => exact (List.append_nil held).symm
  | cons entry rest ih =>
    have hsplit : held ++ entry :: rest = held ++ [entry] ++ rest :=
      (List.append_assoc held [entry] rest).symm
    have hnew : entry.1 ∉ held.map (·.1) := by
      rw [List.map_append, List.nodup_append] at h
      exact fun hmem => h.2.2 _ hmem _ List.mem_cons_self rfl
    rw [List.foldl_cons, upsert_of_not_mem hnew, hsplit]
    exact ih _ (hsplit ▸ h)

theorem mem_upsert {key : Text} {v : α} {entry : Text × α} {entries : List (Text × α)}
    (h : entry ∈ upsert key v entries) : entry = (key, v) ∨ entry ∈ entries := by
  induction entries with
  | nil => exact .inl (List.mem_singleton.mp h)
  | cons first rest ih =>
    rw [upsert] at h
    split at h
    · next hkey =>
      rcases List.mem_cons.mp h with rfl | hrest
      · exact .inl (by rw [hkey])
      · exact .inr (List.mem_cons_of_mem _ hrest)
    · rcases List.mem_cons.mp h with rfl | hrest
      · exact .inr List.mem_cons_self
      · exact (ih hrest).imp_right (List.mem_cons_of_mem _)

/-- No entry comes from elsewhere. -/
theorem mem_foldl_upsert {held entries : List (Text × α)} {entry : Text × α}
    (h : entry ∈ entries.foldl (fun sofar entry => upsert entry.1 entry.2 sofar) held) :
    entry ∈ held ∨ entry ∈ entries := by
  induction entries generalizing held with
  | nil => exact .inl h
  | cons first rest ih =>
    rcases ih h with hheld | hrest
    · rcases mem_upsert hheld with rfl | hheld
      · exact .inr List.mem_cons_self
      · exact .inl hheld
    · exact .inr (List.mem_cons_of_mem _ hrest)

theorem nodup_keys_upsert {entries : List (Text × α)} (h : (entries.map (·.1)).Nodup) (key : Text)
    (v : α) : ((upsert key v entries).map (·.1)).Nodup := by
  by_cases hkey : key ∈ entries.map (·.1)
  · have hkeys : (upsert key v entries).map (·.1) = entries.map (·.1) := by
      clear h
      induction entries with
      | nil => cases hkey
      | cons first rest ih =>
        rw [upsert]
        split
        · next heq => simp [heq]
        · next hne =>
          rw [List.map_cons, List.mem_cons] at hkey
          rw [List.map_cons, List.map_cons, ih (hkey.resolve_left fun heq => hne heq.symm)]
    rw [hkeys]
    exact h
  · rw [upsert_of_not_mem hkey, List.map_append]
    exact List.nodup_append.mpr ⟨h, by simp, by
      intro k hk k' hk' heq
      obtain rfl := List.mem_singleton.mp hk'
      exact hkey (heq ▸ hk)⟩

theorem nodup_keys_foldl_upsert {held : List (Text × α)} (h : (held.map (·.1)).Nodup)
    (entries : List (Text × α)) :
    ((entries.foldl (fun sofar entry => upsert entry.1 entry.2 sofar) held).map (·.1)).Nodup := by
  induction entries generalizing held with
  | nil => exact h
  | cons entry rest ih => exact ih (nodup_keys_upsert h entry.1 entry.2)

theorem mem_of_lookup {entries : List (Text × α)} {key : Text} {v : α}
    (h : entries.lookup key = some v) : (key, v) ∈ entries := by
  obtain ⟨before, after, rfl, -⟩ := List.lookup_eq_some_iff.mp h
  simp

/-- An entry is found by its key if no other has it. -/
theorem lookup_of_mem {entries : List (Text × α)} (h : (entries.map (·.1)).Nodup) {key : Text}
    {v : α} (hmem : (key, v) ∈ entries) : entries.lookup key = some v := by
  induction entries with
  | nil => cases hmem
  | cons entry rest ih =>
    rw [List.map_cons, List.nodup_cons] at h
    rcases List.mem_cons.mp hmem with rfl | hrest
    · simp
    · have hne : key ≠ entry.1 := by
        rintro rfl
        exact h.1 (List.mem_map.mpr ⟨(entry.1, v), hrest, rfl⟩)
      rw [List.lookup_cons, beq_false_of_ne hne]
      exact ih h.2 hrest

theorem sortKeys_perm (entries : List (Text × α)) : (sortKeys entries).Perm entries :=
  List.mergeSort_perm entries _

/-- Values do not matter for the order of entries. -/
theorem map_sortKeys {β : Type} (f : α → β) (entries : List (Text × α)) :
    (sortKeys entries).map (fun entry => (entry.1, f entry.2)) =
      sortKeys (entries.map fun entry => (entry.1, f entry.2)) :=
  List.map_mergeSort fun _ _ _ _ => rfl

theorem nodup_keys_sortKeys {entries : List (Text × α)} (h : (entries.map (·.1)).Nodup) :
    ((sortKeys entries).map (·.1)).Nodup :=
  ((sortKeys_perm entries).map _).nodup_iff.mpr h

end Accord.Text
