import NotePager.Proofs.Settings.Merge
import NotePager.Settings.Toml.Document

/-!
# Keys of documents

A document that is read is a dictionary, and the tables right in it are dictionaries as well
(`Toml.parse?_keyed`): whatever a line does, it changes what stands under one key of a table, or
adds that key (`Toml.keys_alter`).
-/

namespace NotePager.Toml

/-- No key comes twice in a table under construction, nor in the tables in it. -/
inductive Node.Keyed : Node → Prop
  | value {v : SettingValue} (h : v.Keyed) : Keyed (.value v)
  | table {origin : Origin} {entries : List (String × Node)} (hkeys : (entries.map Prod.fst).Nodup)
      (hentries : ∀ entry ∈ entries, Keyed entry.2) : Keyed (.table origin entries)
  | tables {items : List (List (String × Node))} : Keyed (.tables items)

/-- No key comes twice in the table that has been reached, nor in the tables in it. -/
def Reached.Keyed (t : Reached) : Prop := t.node.Keyed

variable {key : String} {f : Option Node → Option Node} {entries entries' : List (String × Node)}
  {path : List String} {t t' : Reached} {cs rest : List Char} {v : SettingValue}

theorem emptyTable_keyed (origin : Origin) : Reached.Keyed ⟨origin, []⟩ :=
  .table List.nodup_nil nofun

/-! ## Changes of a table -/

/-- `alter` keeps the keys, with its own behind them if it was not among them. -/
theorem keys_alter (h : alter key f entries = some entries') :
    entries'.map Prod.fst = if key ∈ entries.map Prod.fst then entries.map Prod.fst
      else entries.map Prod.fst ++ [key] := by
  induction entries generalizing entries' with
  | nil =>
    obtain ⟨node, -, rfl⟩ := Option.map_eq_some_iff.1 h
    rfl
  | cons entry entries ih =>
    obtain ⟨k, node⟩ := entry
    rw [alter] at h
    by_cases hk : k = key
    · rw [if_pos hk] at h
      obtain ⟨node', -, rfl⟩ := Option.map_eq_some_iff.1 h
      simp [hk]
    · rw [if_neg hk] at h
      obtain ⟨further, hfurther, rfl⟩ := Option.map_eq_some_iff.1 h
      rw [List.map_cons, ih hfurther]
      by_cases hmem : key ∈ entries.map Prod.fst <;> simp [hmem, Ne.symm hk]

/-- `alter` leaves entries that were there, or its own entry with what its function made. -/
theorem mem_alter (h : alter key f entries = some entries') {entry : String × Node}
    (hentry : entry ∈ entries') :
    entry ∈ entries ∨ ∃ node?, f node? = some entry.2 ∧ ∀ node ∈ node?, (key, node) ∈ entries := by
  induction entries generalizing entries' with
  | nil =>
    obtain ⟨node, hnode, rfl⟩ := Option.map_eq_some_iff.1 h
    rw [List.mem_singleton.1 hentry]
    exact .inr ⟨none, hnode, nofun⟩
  | cons first entries ih =>
    obtain ⟨k, node⟩ := first
    rw [alter] at h
    by_cases hk : k = key
    · rw [if_pos hk] at h
      obtain ⟨node', hnode', rfl⟩ := Option.map_eq_some_iff.1 h
      rcases List.mem_cons.1 hentry with rfl | hentry
      · refine .inr ⟨some node, hnode', fun n hn => ?_⟩
        rw [← Option.some.inj hn, hk]
        exact List.mem_cons_self
      · exact .inl (List.mem_cons_of_mem _ hentry)
    · rw [if_neg hk] at h
      obtain ⟨further, hfurther, rfl⟩ := Option.map_eq_some_iff.1 h
      rcases List.mem_cons.1 hentry with rfl | hentry
      · exact .inl List.mem_cons_self
      · rcases ih hfurther hentry with hmem | ⟨node?, hnode, hmem⟩
        · exact .inl (List.mem_cons_of_mem _ hmem)
        · exact .inr ⟨node?, hnode, fun n hn => List.mem_cons_of_mem _ (hmem n hn)⟩

/-- A function on what may stand under a key makes keyed nodes of keyed nodes. -/
def KeepsKeyed (f : Option Node → Option Node) : Prop :=
  ∀ node? node', (∀ node ∈ node?, node.Keyed) → f node? = some node' → node'.Keyed

/-- `alter` keeps `Reached.Keyed`, if its function `KeepsKeyed`. -/
theorem Reached.Keyed.alter (ht : t.Keyed) (hf : KeepsKeyed f)
    (h : Toml.alter key f t.entries = some entries') :
    Reached.Keyed { t with entries := entries' } := by
  cases ht with
  | table hkeys hentries =>
    refine .table ?_ fun entry hentry => ?_
    · rw [keys_alter h]
      exact SettingValue.nodup_join hkeys key
    · rcases mem_alter h hentry with hmem | ⟨node?, hnode, hmem⟩
      · exact hentries entry hmem
      · exact hf node? entry.2 (fun node hn => hentries _ (hmem node hn)) hnode

/-- `descend` keeps `Reached.Keyed`, if its function does. -/
theorem Reached.Keyed.descend {dotted : Bool} {f : Reached → Option Reached}
    (hf : ∀ t t', Reached.Keyed t → f t = some t' → t'.Keyed) (ht : t.Keyed)
    (h : Toml.descend dotted f path t = some t') : t'.Keyed := by
  induction path generalizing t t' with
  | nil => exact hf t t' ht h
  | cons key path ih =>
    -- Under the key stands a table on the way, or one is made there, or an array of tables.
    have hdown {t : Reached} {node' : Node} (ht : t.Keyed)
        (h : (Toml.descend dotted f path t).map Reached.node = some node') : node'.Keyed := by
      obtain ⟨t', ht', rfl⟩ := Option.map_eq_some_iff.1 h
      exact ih ht ht'
    rw [Toml.descend] at h
    obtain ⟨entries', halter, hreturn⟩ := Option.bind_eq_some_iff.1 h
    cases hreturn
    refine ht.alter ?_ halter
    intro node? node' hkeyed hnode
    match node? with
    | none => exact hdown (emptyTable_keyed _) hnode
    | some (.value _) => cases hnode
    | some (.table origin entries) =>
      simp only at hnode
      split at hnode
      · cases hnode
      · exact hdown (hkeyed _ rfl) hnode
    | some (.tables []) => cases hnode
    | some (.tables (last :: items)) =>
      obtain ⟨_, -, rfl⟩ := Option.map_eq_some_iff.1 hnode
      exact .tables

/-- `insert` keeps `Reached.Keyed`. -/
theorem Reached.Keyed.insert (hv : v.Keyed) (ht : t.Keyed)
    (h : Toml.insert path key v t = some t') : t'.Keyed := by
  refine ht.descend (fun t t' ht h => ?_) h
  split at h
  · cases h
  · obtain ⟨entries', halter, rfl⟩ := Option.map_eq_some_iff.1 h
    refine ht.alter ?_ halter
    intro node? node' _ hnode
    cases node? with
    | none =>
      cases hnode
      exact .value hv
    | some node => cases hnode

/-- `define` keeps `Reached.Keyed`. -/
theorem Reached.Keyed.define (ht : t.Keyed) (h : Toml.define path key t = some t') : t'.Keyed := by
  refine ht.descend (fun t t' ht h => ?_) h
  obtain ⟨entries', halter, rfl⟩ := Option.map_eq_some_iff.1 h
  refine ht.alter ?_ halter
  intro node? node' hkeyed hnode
  match node? with
  | none =>
    cases hnode
    exact emptyTable_keyed _
  | some (.table origin entries) =>
    simp only at hnode
    split at hnode
    · cases hnode
      cases hkeyed _ rfl with
      | table hkeys hentries => exact .table hkeys hentries
    · cases hnode

/-- `append` keeps `Reached.Keyed`. -/
theorem Reached.Keyed.append (ht : t.Keyed) (h : Toml.append path key t = some t') : t'.Keyed := by
  refine ht.descend (fun t t' ht h => ?_) h
  obtain ⟨entries', halter, rfl⟩ := Option.map_eq_some_iff.1 h
  refine ht.alter ?_ halter
  intro node? node' _ hnode
  match node? with
  | none | some (.tables items) =>
    cases hnode
    exact .tables

/-! ## Lines -/

/-- `finishEntries` keeps the keys. -/
theorem keys_finishEntries (entries : List (String × Node)) :
    (finishEntries entries).map Prod.fst = entries.map Prod.fst := by
  induction entries with
  | nil => rfl
  | cons entry entries ih => rw [finishEntries, List.map_cons, List.map_cons, ih]

/-- The entries of `finishEntries` are the finished nodes. -/
theorem mem_finishEntries (h : (key, v) ∈ finishEntries entries) :
    ∃ node, (key, node) ∈ entries ∧ v = node.finish := by
  induction entries with
  | nil => cases h
  | cons entry entries ih =>
    rcases List.mem_cons.1 h with heq | h
    · cases heq
      exact ⟨entry.2, List.mem_cons_self, rfl⟩
    · obtain ⟨node, hnode, hv⟩ := ih h
      exact ⟨node, List.mem_cons_of_mem _ hnode, hv⟩

/-- `Node.finish` of a keyed node is keyed. -/
theorem Node.Keyed.finish {node : Node} (h : node.Keyed) : node.finish.Keyed := by
  cases h with
  | value h => exact h
  | table hkeys _ =>
    intro entries heq
    cases heq
    rwa [keys_finishEntries]
  | tables => nofun

/-- `insertPair` keeps `Reached.Keyed`. -/
theorem Reached.Keyed.insertPair (hv : v.Keyed) (ht : t.Keyed)
    (h : Toml.insertPair path v t = some t') : t'.Keyed := by
  rw [Toml.insertPair] at h
  split at h
  · cases h
  · exact ht.insert hv h

/-- `enterHeader` keeps `Reached.Keyed`. -/
theorem Reached.Keyed.enterHeader {double : Bool} (ht : t.Keyed)
    (h : Toml.enterHeader double path t = some t') : t'.Keyed := by
  rw [Toml.enterHeader] at h
  split at h
  · cases h
  · split at h
    · exact ht.append h
    · exact ht.define h

/-- `scalar?` is keyed: its only tables, for days and times, have one key. -/
theorem scalar?_keyed {word : List Char} (h : scalar? word = some v) : v.Keyed := by
  intro entries heq
  subst heq
  simp only [scalar?] at h
  split at h
  · cases h
  split at h
  · cases h
  split at h
  · cases h
  split at h
  · cases h
  split at h
  · cases h
    exact List.nodup_singleton _
  · cases h

/-- The reader reads keyed values. -/
def ReadsKeyed (value : Scan SettingValue) : Prop :=
  ∀ cs v rest, value cs = some (v, rest) → v.Keyed

/-- `pair` reads keyed values. -/
theorem pair_keyed {value : Scan SettingValue} (hvalue : ReadsKeyed value)
    (h : pair value cs = some ((path, v), rest)) : v.Keyed := by
  obtain ⟨⟨path', after⟩, -, h⟩ := Option.bind_eq_some_iff.1 h
  simp only at h
  split at h
  · obtain ⟨⟨v', after'⟩, hv, h⟩ := Option.bind_eq_some_iff.1 h
    cases h
    exact hvalue _ _ _ hv
  · cases h

/-- `pairs` keep `Reached.Keyed`. -/
theorem pairs_keyed {value : Scan SettingValue} (hvalue : ReadsKeyed value) {fuel : Nat}
    (ht : t.Keyed) (h : pairs value fuel t cs = some (t', rest)) : t'.Keyed := by
  induction fuel generalizing t cs with
  | zero => cases h
  | succ fuel ih =>
    rw [pairs] at h
    obtain ⟨⟨⟨path, v⟩, after⟩, hpair, h⟩ := Option.bind_eq_some_iff.1 h
    obtain ⟨t'', hinsert, h⟩ := Option.bind_eq_some_iff.1 h
    have ht'' : t''.Keyed := ht.insertPair (pair_keyed hvalue hpair) hinsert
    split at h
    · exact ih ht'' h
    · cases h
      exact ht''
    · cases h

/-- `value` reads keyed values at a depth, if it does at the next smaller one. -/
theorem readsKeyed_value {depth : Nat}
    (hless : ∀ less, depth = less + 1 → ReadsKeyed (value less)) : ReadsKeyed (value depth) := by
  intro cs v rest h
  unfold value at h
  split at h
  · obtain ⟨_, -, heq⟩ := Option.map_eq_some_iff.1 h
    cases heq
    exact nofun
  · obtain ⟨_, -, heq⟩ := Option.map_eq_some_iff.1 h
    cases heq
    exact nofun
  · split at h
    · cases h
    · obtain ⟨_, -, heq⟩ := Option.map_eq_some_iff.1 h
      cases heq
      exact nofun
  · split at h
    · cases h
    · rename_i less
      split at h
      · cases h
        intro entries heq
        cases heq
        exact List.nodup_nil
      · obtain ⟨⟨t, after⟩, hpairs, heq⟩ := Option.map_eq_some_iff.1 h
        cases heq
        exact (pairs_keyed (hless less rfl) (emptyTable_keyed _) hpairs).finish
  · obtain ⟨v', hv', heq⟩ := Option.map_eq_some_iff.1 h
    cases heq
    exact scalar?_keyed hv'

/-- `value` reads keyed values at every depth. -/
theorem value_keyed (depth : Nat) : ReadsKeyed (value depth) := by
  induction depth with
  | zero => exact readsKeyed_value nofun
  | succ depth ih =>
    refine readsKeyed_value fun less hless => ?_
    cases hless
    exact ih

/-- `lines` keep `Reached.Keyed`. -/
theorem lines_keyed {fuel : Nat} {current : List String} (ht : t.Keyed)
    (h : lines fuel current t cs = some t') : t'.Keyed := by
  induction fuel generalizing current t cs with
  | zero => cases h
  | succ fuel ih =>
    rw [lines] at h
    split at h
    · cases h
      exact ht
    · obtain ⟨⟨⟨double, path⟩, after⟩, hheader, h⟩ := Option.bind_eq_some_iff.1 h
      obtain ⟨t'', henter, h⟩ := Option.bind_eq_some_iff.1 h
      exact ih (ht.enterHeader henter) h
    · split at h
      · exact ih ht h
      · obtain ⟨⟨⟨path, v⟩, after⟩, hpair, h⟩ := Option.bind_eq_some_iff.1 h
        obtain ⟨t'', hdescend, h⟩ := Option.bind_eq_some_iff.1 h
        obtain ⟨next, -, h⟩ := Option.bind_eq_some_iff.1 h
        have hv : v.Keyed := pair_keyed (value_keyed maxDepth) hpair
        exact ih (ht.descend (fun t t' ht h => ht.insertPair hv h) hdescend) h

/-- `parse?` gives a dictionary whose tables are dictionaries. -/
theorem parse?_keyed {s : String} (h : parse? s = some v) :
    v.IsDictionary ∧ ∀ key child, v.get? key = some child → child.Keyed := by
  obtain ⟨t, ht, rfl⟩ := Option.map_eq_some_iff.1 h
  cases lines_keyed (emptyTable_keyed _) ht with
  | table hkeys hentries =>
    refine ⟨⟨_, rfl, by rwa [keys_finishEntries]⟩, fun key child hchild => ?_⟩
    obtain ⟨front, back, hsplit, -⟩ := List.lookup_eq_some_iff.1 hchild
    have hmem : (key, child) ∈ finishEntries t.entries := by
      rw [hsplit]
      exact List.mem_append_right _ List.mem_cons_self
    obtain ⟨node, hnode, rfl⟩ := mem_finishEntries hmem
    exact (hentries _ hnode).finish

end NotePager.Toml
