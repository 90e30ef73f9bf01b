import Mathlib.Data.List.AList

/-!
# Finite tables

Association lists without repeated keys, used for every map of the program. The
two lookup equations below decide a read after a write or a deletion by comparing
keys, and a table's listing is its set of entries.
-/

namespace Interaction

abbrev Table (K V : Type) := AList (fun _ : K => V)

namespace Table

variable {K V : Type} [DecidableEq K]

theorem lookup_insert_eq (s : Table K V) (k k' : K) (v : V) :
    (s.insert k' v).lookup k = if k = k' then some v else s.lookup k := by
  split_ifs with h
  · subst h
    exact AList.lookup_insert s
  · exact AList.lookup_insert_ne h

theorem lookup_erase_eq (s : Table K V) (k k' : K) :
    (s.erase k').lookup k = if k = k' then none else s.lookup k := by
  split_ifs with h
  · subst h
    exact AList.lookup_erase k s
  · exact AList.lookup_erase_ne h

def values (s : Table K V) : List V := s.entries.map Sigma.snd

theorem mem_entries_iff (s : Table K V) (k : K) (v : V) :
    (⟨k, v⟩ : Sigma fun _ : K => V) ∈ s.entries ↔ s.lookup k = some v :=
  (AList.mem_lookup_iff (s := s) (a := k) (b := v)).symm

theorem mem_values_iff (s : Table K V) (v : V) : v ∈ s.values ↔ ∃ k, s.lookup k = some v := by
  simp only [values, List.mem_map, ← mem_entries_iff]
  constructor
  · rintro ⟨⟨k, w⟩, hmem, rfl⟩
    exact ⟨k, hmem⟩
  · rintro ⟨k, hmem⟩
    exact ⟨⟨k, v⟩, hmem, rfl⟩

theorem mem_keys_iff (s : Table K V) (k : K) : k ∈ s.keys ↔ ∃ v, s.lookup k = some v := by
  rw [← AList.mem_keys, ← AList.lookup_isSome, Option.isSome_iff_exists]

/-- Values that tell their keys apart are listed once each. -/
theorem nodup_map_values {W : Type} (s : Table K V) (f : V → W)
    (h : ∀ {k k' v v'}, s.lookup k = some v → s.lookup k' = some v' → f v = f v' → k = k') :
    (s.values.map f).Nodup := by
  rw [values, List.map_map]
  refine List.Nodup.map_on ?_ (List.NodupKeys.nodup s.nodupKeys)
  rintro ⟨k, v⟩ hk ⟨k', v'⟩ hk' he
  rw [mem_entries_iff] at hk hk'
  obtain rfl := h hk hk' he
  rw [hk] at hk'
  cases hk'
  rfl

def mapValues {W : Type} (f : V → W) (s : Table K V) : Table K W :=
  ⟨s.entries.map fun e => ⟨e.1, f e.2⟩, by
    simpa [List.NodupKeys, List.keys, Function.comp_def] using s.nodupKeys⟩

theorem lookup_mapValues {W : Type} (f : V → W) (s : Table K V) (k : K) :
    (s.mapValues f).lookup k = (s.lookup k).map f := by
  refine Option.ext fun v => ?_
  simp only [Option.map_eq_some_iff, ← mem_entries_iff, mapValues, List.mem_map]
  constructor
  · rintro ⟨⟨k', v'⟩, hmem, he⟩
    cases he
    exact ⟨v', hmem, rfl⟩
  · rintro ⟨v', hmem, rfl⟩
    exact ⟨⟨k, v'⟩, hmem, rfl⟩

end Table
end Interaction
