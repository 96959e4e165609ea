import NotePager.Proofs.Text.Search

/-!
# Searching in other cases

A search is invariant under changes of case. Only letters have variants (`Text.eq_or_isAlphabetic`),
which is the one fact taken from the tables: each code point that folds, and the one it folds to, is
alphabetic (`Text.foldRuns_alphabetic`). So being part of a term or of a word is the same for all
variants, texts fall apart alike at blanks, terms and words, and what stands in a text stands in its
variants (`Text.HasRun.congr`, `Text.StandsIn.congr`).
-/

namespace NotePager.Text

/-! ## Code points that fold -/

/-- The code points of a run. -/
def FoldRun.points (r : FoldRun) : List Nat :=
  (List.range ((r.last - r.first) / r.step + 1)).map fun k => r.first + k * r.step

/-- The code point that a code point of the run folds to. -/
def FoldRun.image (r : FoldRun) (n : Nat) : Nat := (n + r.shift).toNat

/-- A code point lies in one of the ranges. -/
def Covered (ranges : List (Nat × Nat)) (n : Nat) : Prop := ∃ a ∈ ranges, a.1 ≤ n ∧ n ≤ a.2

/-- One of the ranges holds all code points between two. The two are matched on, so that they are
computed before they are compared with the ranges. -/
def coversAll (ranges : List (Nat × Nat)) : Nat → Nat → Bool
  | low + 1, high + 1 => ranges.any fun a => Nat.ble high.succ a.2 && Nat.ble a.1 low.succ
  | _, _ => false

/-- The ranges hold the code points of a run and those that they fold to. A run with gaps that no
range holds as a whole is looked at point by point. -/
def coversRun (ranges : List (Nat × Nat)) (r : FoldRun) : Bool :=
  coversAll ranges r.first r.last && coversAll ranges (r.image r.first) (r.image r.last)
    || r.points.all fun n => coversAll ranges n n && coversAll ranges (r.image n) (r.image n)

/-- `coversAll` covers every code point between its two ends. -/
theorem covered_of_coversAll {ranges : List (Nat × Nat)} {low n high : Nat}
    (h : coversAll ranges low high = true) (hlow : low ≤ n) (hhigh : n ≤ high) :
    Covered ranges n := by
  cases low with
  | zero => simp [coversAll] at h
  | succ low =>
    cases high with
    | zero => simp [coversAll] at h
    | succ high =>
      simp only [coversAll, List.any_eq_true, Bool.and_eq_true, Nat.ble_eq] at h
      obtain ⟨a, ha, hhigh', hlow'⟩ := h
      exact ⟨a, ha, by omega, by omega⟩

/-- `FoldRun.points` are the code points of the run. -/
theorem FoldRun.mem_points {r : FoldRun} {n : Nat} (hfirst : r.first ≤ n) (hlast : n ≤ r.last)
    (hstep : (n - r.first) % r.step = 0) : n ∈ r.points := by
  have hdiv := Nat.div_add_mod' (n - r.first) r.step
  have hle : (n - r.first) / r.step ≤ (r.last - r.first) / r.step :=
    Nat.div_le_div_right (by omega)
  exact List.mem_map.2 ⟨(n - r.first) / r.step, List.mem_range.2 (by omega), by omega⟩

/-- `coversRun` covers the code points of the run and their images. -/
theorem covered_of_coversRun {ranges : List (Nat × Nat)} {r : FoldRun} {n : Nat}
    (h : coversRun ranges r = true) (hfirst : r.first ≤ n) (hlast : n ≤ r.last)
    (hstep : (n - r.first) % r.step = 0) : Covered ranges n ∧ Covered ranges (r.image n) := by
  simp only [coversRun, Bool.or_eq_true, Bool.and_eq_true, List.all_eq_true] at h
  rcases h with ⟨hpoints, himages⟩ | h
  · refine ⟨covered_of_coversAll hpoints hfirst hlast, covered_of_coversAll himages ?_ ?_⟩ <;>
      simp only [FoldRun.image] <;> omega
  · obtain ⟨hpoint, himage⟩ := h n (FoldRun.mem_points hfirst hlast hstep)
    exact ⟨covered_of_coversAll hpoint le_rfl le_rfl, covered_of_coversAll himage le_rfl le_rfl⟩

/-- `alphabeticRanges` covers all `foldRuns`. -/
theorem foldRuns_alphabetic : foldRuns.all (coversRun alphabeticRanges) = true := by
  decide +kernel

/-- `foldAlong` is the identity off the runs, and `FoldRun.image` on the run that holds the code
point. -/
theorem foldAlong_cases (rs : List FoldRun) (n : Nat) : foldAlong rs n = n ∨ ∃ r ∈ rs,
    (r.first ≤ n ∧ n ≤ r.last ∧ (n - r.first) % r.step = 0) ∧ foldAlong rs n = r.image n := by
  induction rs with
  | nil => exact .inl rfl
  | cons r rs ih =>
    rw [foldAlong]
    split
    · exact .inl rfl
    · next hfirst =>
      split
      · next hrun =>
        simp only [Bool.and_eq_true, decide_eq_true_eq, beq_iff_eq] at hrun
        exact .inr ⟨r, .head _, ⟨Nat.not_lt.1 hfirst, hrun.1, hrun.2⟩, rfl⟩
      · obtain hself | ⟨r', hr', hrun, himage⟩ := ih
        · exact .inl hself
        · exact .inr ⟨r', .tail _ hr', hrun, himage⟩

/-- `foldCode` is the identity off the alphabetic characters, and alphabetic on the others that it
changes. -/
theorem foldCode_cases (c : Char) : foldCode c = c.toNat
    ∨ isAlphabetic c = true ∧ Covered alphabeticRanges (foldCode c) := by
  obtain hself | ⟨r, hr, ⟨hfirst, hlast, hstep⟩, himage⟩ := foldAlong_cases foldRuns c.toNat
  · exact .inl hself
  · have hrun := List.all_eq_true.1 foldRuns_alphabetic r hr
    obtain ⟨hcovered, hfolded⟩ := covered_of_coversRun hrun hfirst hlast hstep
    rw [foldCode, himage]
    exact .inr ⟨covers_eq_true_iff.2 hcovered, hfolded⟩

/-! ## Letters -/

/-- Different characters with `sameLetter` are both alphabetic. -/
theorem eq_or_isAlphabetic {a b : Char} (h : sameLetter a b = true) :
    a = b ∨ isAlphabetic a = true ∧ isAlphabetic b = true := by
  have hfold : foldCode a = foldCode b := beq_iff_eq.1 h
  rcases foldCode_cases a with ha | ⟨ha, hfolded⟩ <;> rcases foldCode_cases b with hb | ⟨hb, hfolded'⟩
  · exact .inl (Char.toNat_inj.1 (ha.symm.trans (hfold.trans hb)))
  · -- The first character is what the second folds to.
    rw [← hfold, ha] at hfolded'
    exact .inr ⟨covers_eq_true_iff.2 hfolded', hb⟩
  · rw [hfold, hb] at hfolded
    exact .inr ⟨ha, covers_eq_true_iff.2 hfolded⟩
  · exact .inr ⟨ha, hb⟩

/-- A property of characters is the same for a letter in any case. -/
def CaseBlind (p : Char → Bool) : Prop := ∀ ⦃a b⦄, sameLetter a b = true → p a = p b

/-- A property that is constant on the alphabetic characters is `CaseBlind`. -/
theorem caseBlind_of_alphabetic {p : Char → Bool} {v : Bool}
    (h : ∀ c, isAlphabetic c = true → p c = v) : CaseBlind p := by
  intro a b hletter
  obtain rfl | ⟨ha, hb⟩ := eq_or_isAlphabetic hletter
  · rfl
  · rw [h a ha, h b hb]

/-- `isAlphanumeric` is `CaseBlind`. -/
theorem caseBlind_isAlphanumeric : CaseBlind isAlphanumeric :=
  caseBlind_of_alphabetic (v := true) fun c hc => by rw [isAlphanumeric, hc, Bool.true_or]

/-- `isWordChar` is `CaseBlind`. -/
theorem caseBlind_isWordChar : CaseBlind isWordChar :=
  caseBlind_of_alphabetic (v := true) fun c hc => by simp only [isWordChar, hc, Bool.true_or]

/-- `isBlank` is `CaseBlind`. -/
theorem caseBlind_isBlank : CaseBlind isBlank := by
  refine caseBlind_of_alphabetic (v := false) fun c hc => ?_
  rw [Bool.eq_false_iff]
  intro hblank
  have hletter := isAlphanumeric_of_isBlank hblank
  rw [isAlphanumeric, hc] at hletter
  cases hletter

/-! ## Runs -/

section
variable {xs ys zs : List Char} {p : Char → Bool}

namespace SameRun

theorem symm (h : SameRun xs ys) : SameRun ys xs :=
  h.flip.imp fun _ _ hletter => beq_iff_eq.2 (beq_iff_eq.1 hletter).symm

theorem trans (h : SameRun xs ys) (h' : SameRun ys zs) : SameRun xs zs := by
  induction h generalizing zs with
  | nil => exact h'
  | cons hletter _ ih =>
    cases h' with
    | cons hletter' h' =>
      exact .cons (beq_iff_eq.2 ((beq_iff_eq.1 hletter).trans (beq_iff_eq.1 hletter'))) (ih h')

theorem append {xs' ys' : List Char} (h : SameRun xs ys) (h' : SameRun xs' ys') :
    SameRun (xs ++ xs') (ys ++ ys') :=
  List.rel_append h h'

theorem reverse (h : SameRun xs ys) : SameRun xs.reverse ys.reverse :=
  List.forall₂_reverse_iff.2 h

/-- `SameRun` splits along an append. -/
theorem split (h : SameRun (xs ++ ys) zs) :
    ∃ xs' ys', zs = xs' ++ ys' ∧ SameRun xs xs' ∧ SameRun ys ys' := by
  refine ⟨zs.take xs.length, zs.drop xs.length, (List.take_append_drop _ _).symm, ?_, ?_⟩
  · exact (List.forall₂_take_append zs xs ys (List.Forall₂.flip h)).flip
  · exact (List.forall₂_drop_append zs xs ys (List.Forall₂.flip h)).flip

theorem dropWhile (hp : CaseBlind p) (h : SameRun xs ys) :
    SameRun (xs.dropWhile p) (ys.dropWhile p) := by
  induction h with
  | nil => exact .nil
  | cons hletter hrest ih =>
    rw [List.dropWhile_cons, List.dropWhile_cons, hp hletter]
    split
    · exact ih
    · exact .cons hletter hrest

theorem head? (hp : CaseBlind p) (h : SameRun xs ys) : xs.head?.any p = ys.head?.any p := by
  cases h with
  | nil => rfl
  | cons hletter _ => exact hp hletter

theorem getLast? (hp : CaseBlind p) (h : SameRun xs ys) :
    xs.getLast?.any p = ys.getLast?.any p := by
  rw [← List.head?_reverse, ← List.head?_reverse, h.reverse.head? hp]

/-- `SameRun` is kept by `trimChars`. -/
theorem trimChars (h : SameRun xs ys) : SameRun (trimChars xs) (trimChars ys) :=
  ((h.dropWhile caseBlind_isBlank).reverse.dropWhile caseBlind_isBlank).reverse

end SameRun

end

/-! ## Searches -/

section
variable {front front' t t' run run' back back' text text' : List Char}

/-- `TermBetween` is invariant under `SameRun`. -/
theorem TermBetween.congr (h : TermBetween front t back) (hfront : SameRun front front')
    (ht : SameRun t t') (hback : SameRun back back') : TermBetween front' t' back' := by
  have hnone (o : Option Char) :
      (∀ c ∈ o, isAlphanumeric c = false) ↔ o.any isAlphanumeric = false := by
    cases o <;> simp
  refine ⟨?_, ?_, ?_, ?_⟩
  · rintro rfl
    cases ht
    exact h.ne_nil rfl
  · have hletters := h.letters
    clear h
    induction ht with
    | nil => nofun
    | cons hletter _ ih =>
      rw [List.forall_mem_cons] at hletters ⊢
      exact ⟨caseBlind_isAlphanumeric hletter ▸ hletters.1, ih hletters.2⟩
  · rw [hnone, ← hfront.getLast? caseBlind_isAlphanumeric, ← hnone]
    exact h.before
  · rw [hnone, ← hback.head? caseBlind_isAlphanumeric, ← hnone]
    exact h.after

/-- `WordBetween` is invariant under `SameRun`. -/
theorem WordBetween.congr (h : WordBetween front run back t) (hfront : SameRun front front')
    (hrun : SameRun run run') (hback : SameRun back back') (ht : SameRun t t') :
    WordBetween front' run' back' t' where
  same := ht.symm.trans (h.same.trans hrun)
  start := by
    rw [isBoundary, ← hfront.getLast? caseBlind_isWordChar,
      ← (hrun.append hback).head? caseBlind_isWordChar]
    exact h.start
  stop := by
    rw [isBoundary, ← (hfront.append hrun).getLast? caseBlind_isWordChar,
      ← hback.head? caseBlind_isWordChar]
    exact h.stop

/-- `terms` of a `SameRun` are the same up to `SameRun`. -/
theorem exists_mem_terms_of_sameRun (htext : SameRun text text') (h : t ∈ terms text) :
    ∃ t' ∈ terms text', SameRun t t' := by
  obtain ⟨front, back, rfl, hterm⟩ := mem_terms_iff.1 h
  obtain ⟨_, back', rfl, hfront, hback⟩ := htext.split
  obtain ⟨front', t', rfl, hfront, ht⟩ := hfront.split
  exact ⟨t', mem_terms_iff.2 ⟨front', back', rfl, hterm.congr hfront ht hback⟩, ht⟩

/-- `HasRun` is invariant under `SameRun`. -/
theorem HasRun.congr (h : HasRun text run) (htext : SameRun text text') (hrun : SameRun run run') :
    HasRun text' run' := by
  obtain ⟨front, same, back, rfl, hsame⟩ := h
  obtain ⟨_, back', rfl, hfront, -⟩ := htext.split
  obtain ⟨front', same', rfl, -, hsame'⟩ := hfront.split
  exact ⟨front', same', back', rfl, hrun.symm.trans (hsame.trans hsame')⟩

/-- `StandsIn` is invariant under `SameRun`. -/
theorem StandsIn.congr (h : StandsIn text t) (htext : SameRun text text') (ht : SameRun t t') :
    StandsIn text' t' := by
  obtain ⟨front, run, back, rfl, hword⟩ := h
  obtain ⟨_, back', rfl, hfront, hback⟩ := htext.split
  obtain ⟨front', run', rfl, hfront, hrun⟩ := hfront.split
  exact ⟨front', run', back', rfl, hword.congr hfront hrun hback ht⟩

end

end NotePager.Text
