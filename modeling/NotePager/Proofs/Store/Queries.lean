import Mathlib.Algebra.GroupWithZero.Nat
import NotePager.Proofs.Query.Engine
import NotePager.Proofs.Query.Order
import NotePager.Proofs.Store.Quiet

/-!
# What queries find

A query selects the notes that pass its filter (`Store.select_perm`), puts them in order
(`Store.select_sorted`) and leaves notes that are equal in this order as they stand in the store
(`Store.filter_select`). Of these rows it shows the window that it asks for, place by place
(`Store.getElem?_window`). So windows that lie one behind the other show the rows one after the
other (`Access.ends_windows`). All this is for any engine, any filter that compiles and any keys,
with or without ties; a filter that does not compile fails the call that it is part of
(`Access.answerRead_fails`).
-/

namespace NotePager

open Std

/-! ## Rows -/

namespace Store

variable {keys : List SortKey} {p : Predicate}

/-- `Store.select` is a permutation of the notes that pass. -/
theorem select_perm (s : Store) (keys : List SortKey) (p : Predicate) :
    (s.select keys p).Perm (s.notes.filter p) :=
  List.mergeSort_perm _ _

/-- `Store.select` has the notes of the store that pass. -/
theorem mem_select {s : Store} {n : Note} :
    n ∈ s.select keys p ↔ n ∈ s.notes ∧ p n = true := by
  rw [(s.select_perm keys p).mem_iff, List.mem_filter]

/-- `Store.select` is sorted, by `isLE`. -/
theorem select_pairwise (s : Store) (keys : List SortKey) (p : Predicate) :
    (s.select keys p).Pairwise fun m n => (compareBy keys m n).isLE = true :=
  pairwise_mergeSort_compareBy keys _

/-- `Store.select` is sorted: no note is less than one in front of it. -/
theorem select_sorted (s : Store) (keys : List SortKey) (p : Predicate) :
    (s.select keys p).Pairwise fun m n => compareBy keys n m ≠ .lt := by
  refine (s.select_pairwise keys p).imp fun {m n} hle hlt => ?_
  rw [OrientedCmp.gt_of_lt hlt] at hle
  cases hle

/-- `Store.select` is stable: notes that compare as equal to `m` stand as they do in the store. -/
theorem filter_select (s : Store) (keys : List SortKey) (p : Predicate) (m : Note) :
    (s.select keys p).filter (compareBy keys m · == .eq)
      = (s.notes.filter p).filter (compareBy keys m · == .eq) := by
  let equals := (s.notes.filter p).filter (compareBy keys m · == .eq)
  have hequal (n : Note) (hn : n ∈ equals) : compareBy keys m n = .eq :=
    beq_iff_eq.1 (List.mem_filter.1 hn).2
  have hle : equals.Pairwise fun a b => (compareBy keys a b).isLE = true := by
    refine List.pairwise_of_forall_mem_list fun a ha b hb => ?_
    rw [TransCmp.eq_trans (OrientedCmp.eq_symm (hequal a ha)) (hequal b hb)]
    rfl
  -- Sorting is stable: notes that are in order already are not moved past each other.
  have hsub : equals.Sublist (s.select keys p) :=
    List.sublist_mergeSort (fun _ _ _ => TransCmp.isLE_trans) (compareBy_isLE_or keys) hle
      List.filter_sublist
  have hself : equals.filter (compareBy keys m · == .eq) = equals :=
    List.filter_eq_self.2 fun n hn => beq_iff_eq.2 (hequal n hn)
  have hlength := ((s.select_perm keys p).filter (compareBy keys m · == .eq)).length_eq
  have hfilter := hsub.filter (compareBy keys m · == .eq)
  rw [hself] at hfilter
  exact (hfilter.eq_of_length hlength.symm).symm

/-- `Store.window`, place by place. -/
theorem getElem?_window (skip : Nat) (limit : Option Nat) (rows : List Note) (i : Nat) :
    (window skip limit rows)[i]? = if limit.all (i < ·) then rows[skip + i]? else none := by
  cases limit with
  | none => simp [window]
  | some limit => simp [window, List.getElem?_take]

end Store

/-- The same query for windows of these sizes, one behind the other from the row at `skip` on. -/
def Query.windows (q : Query) (skip : Nat) : List Nat → List Query
  | [] => []
  | size :: sizes => { q with skip, limit := some size } :: q.windows (skip + size) sizes

/-! ## Calls -/

namespace Access

/-- `Access.perform` of a reading call without a fault fails with `queryFailed` when reading does,
whether or not the caller has given up. -/
theorem answerRead_fails {α : Type} {read : Store → Except FilterError α} {e : FilterError}
    {c : Connection} (call : StoreCall) (hc : c.nextFault call.operation = none)
    (h : read c.store = .error e) :
    (perform call (answerRead call.operation read) c).1
      = .error (.failed (.queryFailed call.operation e.message)) := by
  simp only [perform, answerRead, get_bind_apply, set_bind_apply, hc, h]
  rfl

section
variable [PatternEngine] {s : Store} {q : Query} {p : Predicate}

/-- `Query.windows` end with pages that together are a stretch of the selected notes. -/
theorem ends_windows (h : q.filter.compile = .ok p) (skip : Nat) (sizes : List Nat) :
    ∃ pages, Ends ((q.windows skip sizes).mapM find) s (.ok pages) s
      ∧ pages.flatten = ((s.select q.sort p).drop skip).take sizes.sum := by
  induction sizes generalizing skip with
  | nil => exact ⟨[], .pure [], rfl⟩
  | cons size sizes ih =>
    obtain ⟨pages, hpages, hflatten⟩ := ih (skip + size)
    refine ⟨((s.select q.sort p).drop skip).take size :: pages, ?_, ?_⟩
    · rw [Query.windows, List.mapM_cons]
      exact .bind (.find (q := { q with skip, limit := some size }) h) (.bind hpages (.pure _))
    · rw [List.flatten_cons, hflatten, List.sum_cons, List.take_add, List.drop_drop]

/-- With any engine, `Access.find` without a window ends, on a quiet connection, with rows that are
a permutation of the notes passing the filter, sorted by the keys, with ties as they stand in the
store. A window shows the rows from `skip` on, `limit` of them at most; consecutive windows show the
rows one after the other, and all of them when they are long enough together. `Access.count` ends
with the number of rows. A filter that does not compile fails either call with `queryFailed`, on
every connection where the call meets no fault. -/
theorem find_exact (s : Store) (q : Query) :
    (∀ p, q.filter.compile = .ok p → ∃ rows : List Note,
      Ends (find { q with skip := 0, limit := none }) s (.ok rows) s
      ∧ rows.Perm (s.notes.filter p)
      ∧ rows.Pairwise (fun m n => compareBy q.sort n m ≠ .lt)
      ∧ (∀ m, rows.filter (compareBy q.sort m · == .eq)
          = (s.notes.filter p).filter (compareBy q.sort m · == .eq))
      ∧ (∀ skip limit, ∃ page, Ends (find { q with skip, limit }) s (.ok page) s
          ∧ ∀ i, page[i]? = if limit.all (i < ·) then rows[skip + i]? else none)
      ∧ (∀ sizes : List Nat, ∃ pages, Ends ((q.windows 0 sizes).mapM find) s (.ok pages) s
          ∧ pages.flatten = rows.take sizes.sum
          ∧ (rows.length ≤ sizes.sum → pages.flatten = rows))
      ∧ Ends (count q.filter) s (.ok rows.length) s)
    ∧ ∀ e, q.filter.compile = .error e → ∀ c : Connection,
      (c.nextFault .find = none →
        (find q c).1 = .error (.failed (.queryFailed .find e.message)))
      ∧ (c.nextFault .count = none →
        (count q.filter c).1 = .error (.failed (.queryFailed .count e.message))) := by
  refine ⟨fun p hp => ⟨s.select q.sort p, ?_, s.select_perm q.sort p, s.select_sorted q.sort p,
    s.filter_select q.sort p, fun skip limit => ?_, fun sizes => ?_, ?_⟩, fun e he c => ⟨?_, ?_⟩⟩
  · exact .find (q := { q with skip := 0, limit := none }) hp
  · exact ⟨_, .find (q := { q with skip, limit }) hp, Store.getElem?_window skip limit _⟩
  · obtain ⟨pages, hpages, hflatten⟩ := ends_windows (s := s) hp 0 sizes
    exact ⟨pages, hpages, hflatten, fun hlong => hflatten.trans (List.take_of_length_le hlong)⟩
  · rw [(s.select_perm q.sort p).length_eq, ← List.countP_eq_length_filter]
    exact .count hp
  · exact fun hc => answerRead_fails (.find q) hc (by simp [Store.find, he, Except.map])
  · exact fun hc =>
      answerRead_fails (.count q.filter) hc (by simp [Store.count, he, Except.map])

end

/-- A note with this title and color. -/
def jotting (title color : String) : Note where
  id := ⟨0⟩
  owner := ⟨"ann"⟩
  title
  body := ""
  color
  createdAt := .ofSeconds 0
  updatedAt := .ofSeconds 0

/-- Two notes with each of two titles and one with a third, all with one identifier. -/
def jottings : Store :=
  ⟨[jotting "b" "red", jotting "a" "blue", jotting "c" "red", jotting "b" "blue", jotting "a" "red"]⟩

/-- The notes with an a or a b in the title, by their titles alone, downwards. -/
def byTitle : Query := { filter := .like .title "a|b", sort := [⟨.title, .descending⟩] }

/-- `find_exact` with the plain engine, for a pattern with a bar that four of the five jottings
match, sorted by title alone: the ties are in the order of the store, and a window with the greatest
limit that skips one note shows the other three. -/
theorem find_exact_jottings : ∃ rows : List Note,
    Ends (find byTitle) jottings (.ok rows) jottings
    ∧ rows.filter (compareBy byTitle.sort (jotting "b" "") · == .eq)
      = [jotting "b" "red", jotting "b" "blue"]
    ∧ rows.filter (compareBy byTitle.sort (jotting "a" "") · == .eq)
      = [jotting "a" "blue", jotting "a" "red"]
    ∧ Ends (find { byTitle with skip := 1, limit := some (2 ^ 64 - 1) }) jottings (.ok (rows.drop 1))
      jottings
    ∧ Ends (count byTitle.filter) jottings (.ok 4) jottings := by
  have hbar : byTitle.filter.compile = .ok (textPredicate .title fun s =>
      ["a".toList, "b".toList].any (Text.occurs · s.toList)) := by
    rw [byTitle, Filter.compile_like, readPattern, PatternEngine.read_plain "a|b" rfl]
    rfl
  obtain ⟨hfinds, -⟩ := find_exact jottings byTitle
  obtain ⟨rows, hrows, hperm, -, hstable, hwindow, -, hcount⟩ := hfinds _ hbar
  obtain ⟨page, hpage, hshows⟩ := hwindow 1 (some (2 ^ 64 - 1))
  have hlength : rows.length = 4 := hperm.length_eq.trans (by decide +kernel)
  have hdrop : page = rows.drop 1 := by
    refine List.ext_getElem? fun i => ?_
    rw [hshows, List.getElem?_drop]
    split
    · rfl
    · next hbehind =>
      -- No row lies behind the last place of so long a window.
      rw [Option.all_some, decide_eq_true_iff] at hbehind
      exact (List.getElem?_eq_none (by omega)).symm
  exact ⟨rows, hrows, (hstable _).trans (by decide +kernel), (hstable _).trans (by decide +kernel),
    hdrop ▸ hpage, hlength ▸ hcount⟩

end Access

end NotePager
