import Mathlib.Data.List.Nodup
import NotePager.Settings.Value

/-!
# Looking up what is merged

A dictionary is a table in which no key comes twice. Merging two dictionaries makes a dictionary, in
which a key has what the later one gives for it, or else what the earlier one gives, and both merged
if both give something (`SettingValue.get?_merge`). Two values that are not both tables merge into
the later one (`SettingValue.merge_alike`).
-/

namespace NotePager.SettingValue

variable {a b c v : SettingValue} {key : String} {entries under : List (String × SettingValue)}

/-! ## Values that are alike -/

/-- Two values are alike if they are equal or are both tables. -/
def Alike (v w : SettingValue) : Prop := v = w ∨ (∃ es, v = table es) ∧ ∃ es, w = table es

theorem Alike.refl (v : SettingValue) : v.Alike v := .inl rfl

theorem Alike.symm (h : a.Alike b) : b.Alike a := by
  rcases h with rfl | ⟨ha, hb⟩
  · exact .refl a
  · exact .inr ⟨hb, ha⟩

theorem Alike.trans (hab : a.Alike b) (hbc : b.Alike c) : a.Alike c := by
  rcases hab with rfl | ⟨ha, hb⟩
  · exact hbc
  · rcases hbc with rfl | ⟨-, hc⟩
    · exact .inr ⟨ha, hb⟩
    · exact .inr ⟨ha, hc⟩

/-- `merge` is the later value, up to `Alike`. -/
theorem merge_alike (earlier later : SettingValue) : (earlier.merge later).Alike later := by
  cases later with
  | table entries =>
    cases earlier with
    | table under => exact .inr ⟨⟨_, by rw [merge]⟩, entries, rfl⟩
    | _ => exact .inl (by rw [merge]; nofun)
  | _ => exact .inl (by rw [merge])

/-! ## Entries -/

/-- `List.lookup` by the first entry. -/
theorem lookup_cons_if (k : String) (v : SettingValue) (entries : List (String × SettingValue))
    (key : String) :
    ((k, v) :: entries).lookup key = if key = k then some v else entries.lookup key := by
  rw [List.lookup_cons]
  by_cases h : key = k
  · rw [if_pos h, beq_iff_eq.2 h]
  · rw [if_neg h, beq_eq_false_iff_ne.2 h]

/-- `List.lookup` after `put`. -/
theorem lookup_put (key : String) (f : Option SettingValue → SettingValue)
    (entries : List (String × SettingValue)) (key' : String) :
    (put key f entries).lookup key'
      = if key' = key then some (f (entries.lookup key)) else entries.lookup key' := by
  induction entries with
  | nil => rw [put, lookup_cons_if, List.lookup_nil, List.lookup_nil]
  | cons entry entries ih =>
    obtain ⟨k, v⟩ := entry
    rw [put]
    by_cases hk : k = key
    · subst hk
      simp only [if_true, lookup_cons_if]
      split <;> rfl
    · simp only [if_neg hk, if_neg (Ne.symm hk), lookup_cons_if, ih]
      by_cases h : key' = k
      · rw [if_pos h, if_neg (h ▸ hk), if_pos h]
      · rw [if_neg h, if_neg h]

/-- `put` keeps the keys, with its own behind them if it was not among them. -/
theorem keys_put (key : String) (f : Option SettingValue → SettingValue)
    (entries : List (String × SettingValue)) :
    (put key f entries).map Prod.fst
      = if key ∈ entries.map Prod.fst then entries.map Prod.fst
        else entries.map Prod.fst ++ [key] := by
  induction entries with
  | nil => rfl
  | cons entry entries ih =>
    obtain ⟨k, v⟩ := entry
    rw [put]
    by_cases hk : k = key
    · simp [hk]
    · rw [if_neg hk, List.map_cons, ih]
      by_cases hmem : key ∈ entries.map Prod.fst <;> simp [hmem, Ne.symm hk]

/-- Adding a key that is not among distinct keys leaves them distinct. -/
theorem nodup_join {keys : List String} (h : keys.Nodup) (key : String) :
    (if key ∈ keys then keys else keys ++ [key]).Nodup := by
  split
  · exact h
  · rename_i hnot
    rw [← List.concat_eq_append]
    exact h.concat hnot

/-- `put` keeps the keys distinct. -/
theorem nodup_put (h : (entries.map Prod.fst).Nodup) (key : String)
    (f : Option SettingValue → SettingValue) : ((put key f entries).map Prod.fst).Nodup := by
  rw [keys_put]
  exact nodup_join h key

/-- `mergeEntries` keeps the keys distinct. -/
theorem nodup_mergeEntries (h : (under.map Prod.fst).Nodup)
    (entries : List (String × SettingValue)) :
    ((mergeEntries under entries).map Prod.fst).Nodup := by
  induction entries generalizing under with
  | nil => rwa [mergeEntries]
  | cons entry entries ih =>
    rw [mergeEntries]
    exact ih (nodup_put h _ _)

/-- `List.lookup` after `mergeEntries`. -/
theorem lookup_mergeEntries (under : List (String × SettingValue))
    (h : (entries.map Prod.fst).Nodup) (key : String) :
    (mergeEntries under entries).lookup key
      = Option.merge merge (under.lookup key) (entries.lookup key) := by
  induction entries generalizing under with
  | nil => rw [mergeEntries, List.lookup_nil]; cases under.lookup key <;> rfl
  | cons entry entries ih =>
    obtain ⟨k, v⟩ := entry
    obtain ⟨hfresh, hrest⟩ := List.nodup_cons.1 h
    rw [mergeEntries, ih _ hrest, lookup_put, lookup_cons_if]
    by_cases hk : key = k
    · subst hk
      -- The key is not among the further ones.
      have hnone : entries.lookup key = none := by
        rw [List.lookup_eq_none_iff]
        intro p hp
        exact bne_iff_ne.2 fun heq => hfresh (List.mem_map.2 ⟨p, hp, heq.symm⟩)
      rw [if_pos rfl, if_pos rfl, hnone]
      cases under.lookup key <;> rfl
    · rw [if_neg hk, if_neg hk]

/-! ## Dictionaries -/

/-- If the value is a table, no key comes twice in it. -/
def Keyed (v : SettingValue) : Prop := ∀ entries, v = table entries → (entries.map Prod.fst).Nodup

/-- A table in which no key comes twice. -/
def IsDictionary (v : SettingValue) : Prop :=
  ∃ entries, v = table entries ∧ (entries.map Prod.fst).Nodup

/-- What stands under a key. -/
def get? (key : String) : SettingValue → Option SettingValue
  | table entries => entries.lookup key
  | _ => none

/-- A table with one entry is a dictionary. -/
theorem isDictionary_singleton (key : String) (v : SettingValue) :
    (table [(key, v)]).IsDictionary :=
  ⟨_, rfl, List.nodup_singleton key⟩

/-- `get?` in a table with one entry. -/
theorem get?_singleton (k : String) (v : SettingValue) (key : String) :
    (table [(k, v)]).get? key = if key = k then some v else none := by
  rw [get?, lookup_cons_if, List.lookup_nil]

/-- `merge` keeps `IsDictionary`. -/
theorem IsDictionary.merge (ha : a.IsDictionary) (hb : b.IsDictionary) :
    (a.merge b).IsDictionary := by
  obtain ⟨under, rfl, hunder⟩ := ha
  obtain ⟨entries, rfl, -⟩ := hb
  exact ⟨_, by rw [SettingValue.merge], nodup_mergeEntries hunder entries⟩

/-- `get?` of a merge is the merge of both, where both have something. -/
theorem get?_merge (ha : a.IsDictionary) (hb : b.IsDictionary) (key : String) :
    (a.merge b).get? key = Option.merge merge (a.get? key) (b.get? key) := by
  obtain ⟨under, rfl, -⟩ := ha
  obtain ⟨entries, rfl, hentries⟩ := hb
  rw [merge]
  exact lookup_mergeEntries under hentries key

end NotePager.SettingValue
