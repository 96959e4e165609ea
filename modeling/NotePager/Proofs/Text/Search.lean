import Mathlib.Data.List.Forall2
import Mathlib.Data.List.TakeWhile
import NotePager.Text.Blank
import NotePager.Text.Search

/-!
# What a search finds

What is looked for in a text, said without the readers that look for it. A run of characters is
found where the same run stands, case aside (`Text.HasRun`, `Text.occurs_iff`). The terms of a
search text are its longest runs of letters and numbers (`Text.mem_terms_iff`). A term is found in a
text when some run of the text is the same letter by letter, case aside, and has a word boundary at
its start and at its end (`Text.StandsIn`, `Text.hasTerm_iff`). So a text that is searched for its
own terms has each of them, but need not have a boundary on both sides of any: the longest runs end
where letters and numbers do, boundaries lie where words do.
-/

namespace NotePager.Text

/-! ## Terms -/

/-- A run of letters and numbers that neither of the parts of a text around it continues. -/
structure TermBetween (front t back : List Char) : Prop where
  ne_nil : t ≠ []
  letters : ∀ c ∈ t, isAlphanumeric c = true
  before : ∀ c ∈ front.getLast?, isAlphanumeric c = false
  after : ∀ c ∈ back.head?, isAlphanumeric c = false

/-- The terms of a text, read from its end. -/
def split (text : List Char) : TermSplit := text.foldr TermSplit.cons ([], [])

/-- The first component of `split` is the letters and numbers at the front. -/
theorem fst_split (text : List Char) : (split text).1 = text.takeWhile isAlphanumeric := by
  induction text with
  | nil => rfl
  | cons c text ih =>
    rw [split, List.foldr_cons, ← split, TermSplit.cons, List.takeWhile_cons, ← ih]
    split <;> rfl

/-- The letters and numbers at the front are a `TermBetween` nothing and the rest, unless there are
none. -/
theorem eq_takeWhile_iff {text t : List Char} (ht : t ≠ []) :
    t = text.takeWhile isAlphanumeric ↔ ∃ back, text = t ++ back ∧ TermBetween [] t back := by
  constructor
  · rintro rfl
    refine ⟨text.dropWhile isAlphanumeric, (List.takeWhile_append_dropWhile).symm, ht,
      fun c hc => List.mem_takeWhile_imp hc, nofun, fun c hc => ?_⟩
    have hhead := List.head?_dropWhile_not isAlphanumeric text
    rw [Option.mem_def.1 hc] at hhead
    simpa using hhead
  · rintro ⟨back, rfl, hterm⟩
    have hback : back.takeWhile isAlphanumeric = [] := by
      cases back with
      | nil => rfl
      | cons c back => rw [List.takeWhile_cons, hterm.after c rfl]; rfl
    rw [List.takeWhile_append_of_pos hterm.letters, hback, List.append_nil]

/-- `TermBetween` depends on the last character of the front only. -/
theorem termBetween_cons_cons {a b : Char} {front t back : List Char} :
    TermBetween (a :: b :: front) t back ↔ TermBetween (b :: front) t back := by
  constructor <;> rintro ⟨hne, hletters, hbefore, hafter⟩ <;> refine ⟨hne, hletters, ?_, hafter⟩
  · rwa [List.getLast?_cons_cons] at hbefore
  · rwa [List.getLast?_cons_cons]

/-- Membership in `TermSplit.terms`. -/
theorem mem_terms_split_iff {s : TermSplit} {t : List Char} :
    t ∈ s.terms ↔ t ≠ [] ∧ t = s.1 ∨ t ∈ s.2 := by
  cases h : s.1 with
  | nil => simp [TermSplit.terms, h]
  | cons c front =>
    simp only [TermSplit.terms, h, List.isEmpty_cons, Bool.false_eq_true, if_false, List.mem_cons]
    exact or_congr_left ⟨fun ht => ⟨ht ▸ List.cons_ne_nil c front, ht⟩, And.right⟩

/-- The second component of `split` has the longest runs that begin behind the first character. -/
theorem mem_snd_split_iff {text t : List Char} : t ∈ (split text).2 ↔
    ∃ c front back, text = c :: front ++ t ++ back ∧ TermBetween (c :: front) t back := by
  induction text with
  | nil => simp [split]
  | cons d text ih =>
    have hsplit : split (d :: text) = (split text).cons d := rfl
    cases hd : isAlphanumeric d with
    | true =>
      -- A run that begins behind a letter is not the longest, so it begins further on.
      rw [hsplit, TermSplit.cons, if_pos hd, ih]
      constructor
      · rintro ⟨c, front, back, rfl, hterm⟩
        exact ⟨d, c :: front, back, rfl, termBetween_cons_cons.2 hterm⟩
      · rintro ⟨c, front, back, htext, hterm⟩
        obtain ⟨rfl, rfl⟩ := List.cons.inj htext
        cases front with
        | nil => cases hd.symm.trans (hterm.before d rfl)
        | cons b front => exact ⟨b, front, back, rfl, termBetween_cons_cons.1 hterm⟩
    | false =>
      rw [hsplit, TermSplit.cons, if_neg (by simp [hd]), mem_terms_split_iff, ih, fst_split]
      constructor
      · rintro (⟨hne, hfront⟩ | ⟨c, front, back, rfl, hterm⟩)
        · obtain ⟨back, rfl, hterm⟩ := (eq_takeWhile_iff hne).1 hfront
          refine ⟨d, [], back, rfl, hne, hterm.letters, fun c hc => ?_, hterm.after⟩
          cases hc
          exact hd
        · exact ⟨d, c :: front, back, rfl, termBetween_cons_cons.2 hterm⟩
      · rintro ⟨c, front, back, htext, hterm⟩
        obtain ⟨rfl, rfl⟩ := List.cons.inj htext
        cases front with
        | nil =>
          refine .inl ⟨hterm.ne_nil, (eq_takeWhile_iff hterm.ne_nil).2 ⟨back, rfl, ?_⟩⟩
          exact ⟨hterm.ne_nil, hterm.letters, nofun, hterm.after⟩
        | cons b front => exact .inr ⟨b, front, back, rfl, termBetween_cons_cons.1 hterm⟩

/-- `terms` are the longest runs of letters and numbers. -/
theorem mem_terms_iff {text t : List Char} :
    t ∈ terms text ↔ ∃ front back, text = front ++ t ++ back ∧ TermBetween front t back := by
  rw [terms, ← split, mem_terms_split_iff, mem_snd_split_iff, fst_split]
  constructor
  · rintro (⟨hne, hfront⟩ | ⟨c, front, back, htext, hterm⟩)
    · obtain ⟨back, htext, hterm⟩ := (eq_takeWhile_iff hne).1 hfront
      exact ⟨[], back, htext, hterm⟩
    · exact ⟨c :: front, back, htext, hterm⟩
  · rintro ⟨front, back, htext, hterm⟩
    cases front with
    | nil => exact .inl ⟨hterm.ne_nil, (eq_takeWhile_iff hterm.ne_nil).2 ⟨back, htext, hterm⟩⟩
    | cons c front => exact .inr ⟨c, front, back, htext, hterm⟩

/-- Lists of ranges that do not meet cover no character in common. -/
theorem covers_eq_false_of_covers {xs ys : List (Nat × Nat)} {c : Char}
    (h : (xs.all fun x => ys.all fun y => x.2 < y.1 || y.2 < x.1) = true)
    (hc : covers xs c = true) : covers ys c = false := by
  obtain ⟨x, hx, hlow, hhigh⟩ := covers_eq_true_iff.1 hc
  by_contra hy
  obtain ⟨y, hy, hlow', hhigh'⟩ := covers_eq_true_iff.1 (Bool.not_eq_false _ ▸ hy)
  have hmeet := List.all_eq_true.1 (List.all_eq_true.1 h x hx) y hy
  simp only [Bool.or_eq_true, decide_eq_true_eq] at hmeet
  omega

/-- No blank `isAlphanumeric`. -/
theorem isAlphanumeric_of_isBlank {c : Char} (hc : isBlank c = true) :
    isAlphanumeric c = false := by
  have halphabetic : isAlphabetic c = false :=
    covers_eq_false_of_covers (by decide +kernel) hc
  have hdecimal : covers decimalDigitRanges c = false :=
    covers_eq_false_of_covers (by decide +kernel) hc
  have hletter : covers letterNumberRanges c = false :=
    covers_eq_false_of_covers (by decide +kernel) hc
  have hother : covers otherNumberRanges c = false :=
    covers_eq_false_of_covers (by decide +kernel) hc
  simp only [isAlphanumeric, isNumeric, halphabetic, hdecimal, hletter, hother, Bool.or_self]

/-- Two runs are the same, letter by letter and case aside. -/
def SameRun : List Char → List Char → Prop := List.Forall₂ fun a b => sameLetter a b = true

/-- `SameRun` is reflexive. -/
theorem SameRun.refl (run : List Char) : SameRun run run :=
  List.forall₂_same.2 fun _ _ => beq_self_eq_true _

/-- Somewhere in the text stands a run that is the same as this one. -/
def HasRun (text run : List Char) : Prop :=
  ∃ front same back, text = front ++ same ++ back ∧ SameRun run same

/-- Between two parts of a text stands a run that is the same as a term, with a word boundary on
either side. -/
structure WordBetween (front run back term : List Char) : Prop where
  same : SameRun term run
  start : isBoundary front.getLast? (run ++ back).head? = true
  stop : isBoundary (front ++ run).getLast? back.head? = true

/-- The term stands in the text as a word of its own. -/
def StandsIn (text term : List Char) : Prop :=
  ∃ front run back, text = front ++ run ++ back ∧ WordBetween front run back term

section
variable {prev run text rest t : List Char} {ts : List (List Char)} {last : Option Char}

/-- `takeRun` takes a front of the text that is the `SameRun`, and remembers the last character
passed. -/
theorem takeRun_eq_some_iff : takeRun prev.getLast? run text = some (last, rest) ↔
    ∃ taken, text = taken ++ rest ∧ SameRun run taken ∧ last = (prev ++ taken).getLast? := by
  induction run generalizing prev text with
  | nil =>
    simp only [takeRun, SameRun, List.forall₂_nil_left_iff, Option.some.injEq, Prod.mk.injEq]
    constructor
    · rintro ⟨rfl, rfl⟩
      exact ⟨[], rfl, rfl, by rw [List.append_nil]⟩
    · rintro ⟨_, rfl, rfl, rfl⟩
      exact ⟨by rw [List.append_nil], rfl⟩
  | cons p run ih =>
    simp only [SameRun, List.forall₂_cons_left_iff]
    cases text with
    | nil =>
      simp only [takeRun]
      refine iff_of_false nofun ?_
      rintro ⟨_, htext, ⟨c, taken, -, -, rfl⟩, -⟩
      cases htext
    | cons c text =>
      have hlast : some c = (prev ++ [c]).getLast? := by rw [List.getLast?_concat]
      simp only [takeRun]
      constructor
      · intro h
        split at h
        · obtain ⟨taken, rfl, hsame, rfl⟩ := ih.1 (hlast ▸ h)
          exact ⟨c :: taken, rfl, ⟨c, taken, ‹_›, hsame, rfl⟩, by simp⟩
        · cases h
      · rintro ⟨_, htext, ⟨d, taken, hletter, hsame, rfl⟩, rfl⟩
        obtain ⟨rfl, rfl⟩ := List.cons.inj htext
        rw [if_pos hletter, hlast, ih]
        exact ⟨taken, rfl, hsame, by simp⟩

/-- `startsWithRun` by `SameRun`. -/
theorem startsWithRun_iff :
    startsWithRun run text = true ↔ ∃ same back, text = same ++ back ∧ SameRun run same := by
  -- Nothing has been read yet.
  have hnone : (none : Option Char) = ([] : List Char).getLast? := rfl
  rw [startsWithRun, hnone, Option.isSome_iff_exists]
  constructor
  · rintro ⟨⟨last, back⟩, htake⟩
    obtain ⟨same, htext, hsame, -⟩ := takeRun_eq_some_iff.1 htake
    exact ⟨same, back, htext, hsame⟩
  · rintro ⟨same, back, htext, hsame⟩
    exact ⟨(same.getLast?, back), takeRun_eq_some_iff.2 ⟨same, htext, hsame, rfl⟩⟩

/-- `occurs` decides `HasRun`. -/
theorem occurs_iff : occurs run text = true ↔ HasRun text run := by
  induction text with
  | nil =>
    rw [occurs, startsWithRun_iff]
    constructor
    · rintro ⟨same, back, htext, hsame⟩
      exact ⟨[], same, back, htext, hsame⟩
    · rintro ⟨front, same, back, htext, hsame⟩
      obtain ⟨rfl, rfl, rfl⟩ : front = [] ∧ same = [] ∧ back = [] := by simpa using htext
      exact ⟨[], [], rfl, hsame⟩
  | cons c text ih =>
    rw [occurs, Bool.or_eq_true, startsWithRun_iff, ih]
    constructor
    · rintro (⟨same, back, htext, hsame⟩ | ⟨front, same, back, rfl, hsame⟩)
      · exact ⟨[], same, back, htext, hsame⟩
      · exact ⟨c :: front, same, back, rfl, hsame⟩
    · rintro ⟨front, same, back, htext, hsame⟩
      cases front with
      | nil => exact .inl ⟨same, back, htext, hsame⟩
      | cons d front =>
        obtain ⟨rfl, rfl⟩ := List.cons.inj htext
        exact .inr ⟨front, same, back, rfl, hsame⟩

/-- `termAt` finds a `WordBetween` at the front. -/
theorem termAt_iff : termAt prev.getLast? text t = true ↔
    ∃ run back, text = run ++ back ∧ WordBetween prev run back t := by
  rw [termAt]
  constructor
  · intro h
    split at h
    · cases h
    · next last rest htake =>
      obtain ⟨run, rfl, hsame, rfl⟩ := takeRun_eq_some_iff.1 htake
      obtain ⟨hstart, hstop⟩ := Bool.and_eq_true_iff.1 h
      exact ⟨run, rest, rfl, hsame, hstart, hstop⟩
  · rintro ⟨run, back, rfl, hword⟩
    have htake : takeRun prev.getLast? t (run ++ back) = some ((prev ++ run).getLast?, back) :=
      takeRun_eq_some_iff.2 ⟨run, rfl, hword.same, rfl⟩
    simp only [htake, hword.start, hword.stop, Bool.and_self]

/-- `hasTermFrom` finds a `WordBetween` anywhere behind what has been passed. -/
theorem hasTermFrom_iff : hasTermFrom ts prev.getLast? text = true ↔
    ∃ t ∈ ts, ∃ front run back, text = front ++ run ++ back
      ∧ WordBetween (prev ++ front) run back t := by
  induction text generalizing prev with
  | nil =>
    simp only [hasTermFrom, List.any_eq_true, termAt_iff]
    refine exists_congr fun t => and_congr_right fun _ => ⟨?_, ?_⟩
    · rintro ⟨run, back, htext, hword⟩
      exact ⟨[], run, back, htext, by rwa [List.append_nil]⟩
    · rintro ⟨front, run, back, htext, hword⟩
      obtain ⟨rfl, rfl, rfl⟩ : front = [] ∧ run = [] ∧ back = [] := by simpa using htext
      exact ⟨[], [], rfl, by rwa [List.append_nil] at hword⟩
  | cons c text ih =>
    have hlast : some c = (prev ++ [c]).getLast? := by rw [List.getLast?_concat]
    rw [hasTermFrom, Bool.or_eq_true, hlast, ih]
    simp only [List.any_eq_true, termAt_iff]
    constructor
    · rintro (⟨t, ht, run, back, htext, hword⟩ | ⟨t, ht, front, run, back, rfl, hword⟩)
      · exact ⟨t, ht, [], run, back, htext, by rwa [List.append_nil]⟩
      · exact ⟨t, ht, c :: front, run, back, rfl, by simpa using hword⟩
    · rintro ⟨t, ht, front, run, back, htext, hword⟩
      cases front with
      | nil => exact .inl ⟨t, ht, run, back, htext, by rwa [List.append_nil] at hword⟩
      | cons d front =>
        obtain ⟨rfl, rfl⟩ := List.cons.inj htext
        exact .inr ⟨t, ht, front, run, back, rfl, by simpa using hword⟩

/-- `hasTerm` decides whether one of the terms `StandsIn` the text. -/
theorem hasTerm_iff : hasTerm ts text = true ↔ ∃ t ∈ ts, StandsIn text t :=
  @hasTermFrom_iff [] text ts

instance (text term : List Char) : Decidable (StandsIn text term) :=
  decidable_of_iff (hasTerm [term] text = true) (by simp [hasTerm_iff])

end

end NotePager.Text
