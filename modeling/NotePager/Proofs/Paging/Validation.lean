import Mathlib.Data.List.DropRight
import Mathlib.Data.List.Forall2
import NotePager.Proofs.Paging.CursorText
import NotePager.Proofs.Paging.Request

/-!
# What validation accepts

`ParameterCheck` lists what parameters are checked for, in the order in which the checks count. For
each check `ParameterCheck.Passes` and `ParameterCheck.error?` define, without regard to the others,
when parameters pass it and which error it has otherwise. A step of validation makes some of the
checks (`Parameters.Makes`) when it succeeds exactly if all of them pass, and otherwise has the
error of the first that does not (`Parameters.FirstFault`). Steps one after another make the checks
of all of them, so validation makes all checks (`Parameters.validate_makes`).
-/

namespace NotePager

/-! ## Names in letters of either case -/

/-- The text is the name, each letter of which may stand in upper case. -/
def SpelledAs (s name : String) : Prop :=
  List.Forall₂ (fun c d => c = d ∨ c = d.toUpper) s.toList name.toList

/-- The characters with a given `Char.toLower` that is a lower case letter. -/
theorem toLower_eq_iff {c d : Char} (hd : d.isLower = true) :
    c.toLower = d ↔ c = d ∨ c = d.toUpper := by
  have hrange : 'a'.val ≤ d.val ∧ d.val ≤ 'z'.val :=
    (Bool.and_eq_true_iff.1 hd).imp of_decide_eq_true of_decide_eq_true
  have hd : 97 ≤ d.val.toNat ∧ d.val.toNat ≤ 122 :=
    hrange.imp UInt32.le_iff_toNat_le.1 UInt32.le_iff_toNat_le.1
  have hupper : d.toUpper = _ := dif_pos hrange
  -- The two cases of a letter are 32 apart.
  by_cases hc : 'A'.val ≤ c.val ∧ c.val ≤ 'Z'.val
  · have hlower : c.toLower = _ := dif_pos hc
    have hc : 65 ≤ c.val.toNat ∧ c.val.toNat ≤ 90 :=
      hc.imp UInt32.le_iff_toNat_le.1 UInt32.le_iff_toNat_le.1
    rw [hlower, hupper]
    simp only [Char.ext_iff, ← UInt32.toNat_inj, UInt32.toNat_add, Char.reduceVal,
      UInt32.reduceSub, UInt32.reduceToNat]
    omega
  · have hlower : c.toLower = c := dif_neg hc
    have hc : ¬ (65 ≤ c.val.toNat ∧ c.val.toNat ≤ 90) := by
      rwa [UInt32.le_iff_toNat_le, UInt32.le_iff_toNat_le] at hc
    rw [hlower, hupper]
    simp only [Char.ext_iff, ← UInt32.toNat_inj, UInt32.toNat_add, Char.reduceVal,
      UInt32.reduceSub, UInt32.reduceToNat]
    omega

/-- `toLower_eq_iff` along a list. -/
theorem map_toLower_eq_iff {cs ds : List Char} (hds : ∀ d ∈ ds, d.isLower = true) :
    cs.map Char.toLower = ds ↔ List.Forall₂ (fun c d => c = d ∨ c = d.toUpper) cs ds := by
  induction cs generalizing ds with
  | nil => simp [eq_comm]
  | cons c cs ih =>
    cases ds with
    | nil => simp
    | cons d ds =>
      obtain ⟨hd, hrest⟩ := List.forall_mem_cons.1 hds
      rw [List.map_cons, List.cons_eq_cons, List.forall₂_cons, toLower_eq_iff hd, ih hrest]

/-- `lowercase` of a text is a name in lower case when the text is `SpelledAs` the name. -/
theorem lowercase_eq_iff {s name : String} (hname : name.toList.all Char.isLower = true) :
    lowercase s = name ↔ SpelledAs s name := by
  rw [lowercase, ← String.toList_inj, String.toList_ofList]
  exact map_toLower_eq_iff (List.all_eq_true.1 hname)

/-- `SortBy.ofName?` finds the three names of sorts and no others. -/
theorem SortBy.mem_names_iff {name : String} :
    name ∈ ["created_at", "updated_at", "title"] ↔ ∃ sort, ofName? name = some sort := by
  constructor
  · intro h
    simp only [List.mem_cons, List.not_mem_nil, or_false] at h
    rcases h with rfl | rfl | rfl
    · exact ⟨.createdAt, rfl⟩
    · exact ⟨.updatedAt, rfl⟩
    · exact ⟨.title, rfl⟩
  · rintro ⟨sort, hsort⟩
    have hname : sort.name = name := by simpa using List.find?_some hsort
    rw [← hname]
    cases sort <;> decide

/-! ## The checks -/

/-- The sort that the parameters name. Without a name it is by the time of creation. -/
def Parameters.namedSort (p : Parameters) : SortBy :=
  (p.sort.bind SortBy.ofName?).getD .createdAt

/-- What parameters are checked for. -/
inductive ParameterCheck where
  | limit
  | sort
  | order
  | onePosition
  | spanWithAnchor
  | directionWithCursor
  | limitWithoutAnchor
  | offset
  | span
  | anchor
  | direction
  | cursor
  | search
  deriving DecidableEq, Repr

namespace ParameterCheck

/-- The checks in the order in which they count. -/
def all : List ParameterCheck :=
  [limit, sort, order, onePosition, spanWithAnchor, directionWithCursor, limitWithoutAnchor,
    offset, span, anchor, direction, cursor, search]

/-- The parameters pass the check. A parameter that is absent passes. -/
def Passes (p : Parameters) : ParameterCheck → Prop
  | limit => ∀ n ∈ p.limit, 1 ≤ n ∧ n ≤ 100
  | sort => ∀ name ∈ p.sort, name ∈ ["created_at", "updated_at", "title"]
  | order => ∀ name ∈ p.order, SpelledAs name "asc" ∨ SpelledAs name "desc"
  | onePosition => ¬ (p.cursor.isSome ∧ p.offset.isSome) ∧ ¬ (p.cursor.isSome ∧ p.anchor.isSome)
    ∧ ¬ (p.offset.isSome ∧ p.anchor.isSome)
  | spanWithAnchor => p.span.isSome → p.anchor.isSome
  | directionWithCursor => p.direction.isSome → p.cursor.isSome
  | limitWithoutAnchor => ¬ (p.limit.isSome ∧ p.anchor.isSome)
  | offset => ∀ n ∈ p.offset, 0 ≤ n ∧ n ≤ 50000
  | span => ∀ n ∈ p.span, 1 ≤ n ∧ n ≤ 50
  | anchor => ∀ raw ∈ p.anchor, ∃ c, Cursor.decode raw p.namedSort = .ok c
  | direction => ∀ name ∈ p.direction, SpelledAs name "next" ∨ SpelledAs name "prev"
  | cursor => ∀ raw ∈ p.cursor, ∃ c, Cursor.decode raw p.namedSort = .ok c
  | search => ∀ text ∈ p.search, (Text.trim text).length ≤ 256

/-- Why a string is no cursor of the sort, if it is none. -/
def cursorError? (raw : String) (sort : SortBy) : Option ListError :=
  match Cursor.decode raw sort with
  | .error cause => some (.invalidCursor cause)
  | .ok _ => none

/-- The error of parameters that do not pass the check. Numbers and the name of a sort are named as
they are given, the names of an order and of a direction in lower case. -/
def error? (p : Parameters) : ParameterCheck → Option ListError
  | limit => p.limit.map .invalidLimit
  | sort => p.sort.map fun name => .badRequest (.unknownSort name)
  | order => p.order.map fun name => .badRequest (.unknownOrder (lowercase name))
  | onePosition => some (.badRequest .severalPositions)
  | spanWithAnchor => some (.badRequest .spanWithoutAnchor)
  | directionWithCursor => some (.badRequest .directionWithoutCursor)
  | limitWithoutAnchor => some (.badRequest .limitWithAnchor)
  | offset => p.offset.map fun n => .badRequest (.offsetOutOfRange n)
  | span => p.span.map fun n => .badRequest (.spanOutOfRange n)
  | anchor => p.anchor.bind (cursorError? · p.namedSort)
  | direction => p.direction.map fun name => .badRequest (.unknownDirection (lowercase name))
  | cursor => p.cursor.bind (cursorError? · p.namedSort)
  | search => some (.badRequest .searchTooLong)

end ParameterCheck

/-! ## Steps and the checks they make -/

namespace Parameters

/-- The error is that of the first of the checks that the parameters do not pass. -/
inductive FirstFault (p : Parameters) : List ParameterCheck → ListError → Prop
  | here (hfail : ¬ check.Passes p) (he : check.error? p = some e) :
    FirstFault p (check :: checks) e
  | later (hpass : check.Passes p) (hrest : FirstFault p checks e) :
    FirstFault p (check :: checks) e

/-- The step makes the checks: when it comes to something all of them pass, and its error is that of
the first that does not. -/
def Makes (p : Parameters) (checks : List ParameterCheck) (step : Except ListError α) : Prop :=
  match step with
  | .ok _ => ∀ check ∈ checks, check.Passes p
  | .error e => FirstFault p checks e

variable {p : Parameters} {check : ParameterCheck} {checks further : List ParameterCheck}
  {e e' : ListError} {step : Except ListError α}

/-- `FirstFault` determines the error. -/
theorem FirstFault.unique (h : FirstFault p checks e) (h' : FirstFault p checks e') : e = e' := by
  induction h with
  | here hfail he =>
    cases h' with
    | here hfail' he' => exact Option.some.inj (he.symm.trans he')
    | later hpass' hrest' => exact absurd hpass' hfail
  | later hpass hrest ih =>
    cases h' with
    | here hfail' he' => exact absurd hpass hfail'
    | later hpass' hrest' => exact ih hrest'

/-- `FirstFault` is kept when checks are added behind. -/
theorem FirstFault.append (h : FirstFault p checks e) : FirstFault p (checks ++ further) e := by
  induction h with
  | here hfail he => exact .here hfail he
  | later hpass hrest ih => exact .later hpass ih

/-- `FirstFault` is kept when checks that pass are added in front. -/
theorem FirstFault.behind (hpass : ∀ check ∈ checks, check.Passes p) (h : FirstFault p further e) :
    FirstFault p (checks ++ further) e := by
  induction checks with
  | nil => exact h
  | cons check checks ih =>
    exact .later (hpass check (.head _)) (ih fun c hc => hpass c (.tail _ hc))

/-- `FirstFault` holds only where some check fails. -/
theorem FirstFault.exists_fails (h : FirstFault p checks e) :
    ∃ check ∈ checks, ¬ check.Passes p := by
  induction h with
  | here hfail he => exact ⟨_, .head _, hfail⟩
  | later hpass hrest ih =>
    obtain ⟨check, hmem, hfail⟩ := ih
    exact ⟨check, .tail _ hmem, hfail⟩

/-- A step that `Makes` checks succeeds exactly when all of them pass. -/
theorem Makes.ok_iff (h : Makes p checks step) :
    (∃ a, step = .ok a) ↔ ∀ check ∈ checks, check.Passes p := by
  cases step with
  | ok a => exact ⟨fun _ => h, fun _ => ⟨a, rfl⟩⟩
  | error e =>
    obtain ⟨check, hcheck, hfails⟩ := FirstFault.exists_fails h
    refine ⟨fun ha => ?_, fun hpasses => absurd (hpasses check hcheck) hfails⟩
    obtain ⟨a, ha⟩ := ha
    cases ha

/-- A step that `Makes` checks fails exactly with their `FirstFault`. -/
theorem Makes.error_iff (h : Makes p checks step) :
    step = .error e ↔ FirstFault p checks e := by
  cases step with
  | ok a =>
    refine ⟨fun he => (nomatch he), fun hfault => ?_⟩
    obtain ⟨check, hcheck, hfails⟩ := hfault.exists_fails
    exact absurd (h check hcheck) hfails
  | error e' =>
    refine ⟨fun he => ?_, fun hfault => by rw [FirstFault.unique h hfault]⟩
    cases he
    exact h

/-- A step that succeeds `Makes` no checks. -/
theorem Makes.nil (a : α) : Makes p [] (.ok a : Except ListError α) := by
  intro check hcheck
  cases hcheck

/-- `Makes` with one more check in front, which the step fails with, and behind which it makes the
others. -/
theorem Makes.cons (hpass : check.Passes p → Makes p checks step)
    (hfail : ¬ check.Passes p → ∃ e, check.error? p = some e ∧ step = .error e) :
    Makes p (check :: checks) step := by
  by_cases h : check.Passes p
  · have hrest := hpass h
    cases step with
    | ok a => exact List.forall_mem_cons.2 ⟨h, hrest⟩
    | error e => exact .later h hrest
  · obtain ⟨e, he, rfl⟩ := hfail h
    exact .here h he

/-- `Makes` with a check in front that passes. -/
theorem Makes.skip (h : check.Passes p) (hstep : Makes p checks step) :
    Makes p (check :: checks) step :=
  .cons (fun _ => hstep) fun hfail => absurd h hfail

/-- `Makes` for a step on one parameter, with the condition and the error of its check. -/
theorem Makes.parameter {given : Option β} {good : β → Prop} {fault : β → ListError}
    (hpasses : check.Passes p ↔ ∀ b ∈ given, good b) (herror : check.error? p = given.map fault)
    (hgood : (∀ b ∈ given, good b) → ∃ a, step = .ok a)
    (hbad : ∀ b ∈ given, ¬ good b → step = .error (fault b)) : Makes p [check] step := by
  refine .cons (fun h => ?_) fun h => ?_
  · obtain ⟨a, rfl⟩ := hgood (hpasses.1 h)
    exact .nil a
  · obtain ⟨b, hb, hnot⟩ : ∃ b ∈ given, ¬ good b := by simpa using mt hpasses.2 h
    exact ⟨fault b, by rw [herror, Option.mem_def.1 hb, Option.map_some], hbad b hb hnot⟩

/-- `Makes` for an `if` that refuses in front of a step. -/
theorem Makes.refuse {bad : Prop} [Decidable bad] (hbad : bad ↔ ¬ check.Passes p)
    (he : check.error? p = some e) (hstep : Makes p checks step) :
    Makes p (check :: checks) (if bad then .error e else step) := by
  refine .cons (fun h => ?_) fun h => ⟨e, he, if_pos (hbad.2 h)⟩
  rw [if_neg fun hb => hbad.1 hb h]
  exact hstep

/-- `Makes` for two steps in sequence: the checks of the first and then those of the second. -/
theorem Makes.bind {next : α → Except ListError β} (hstep : Makes p checks step)
    (hnext : ∀ a, step = .ok a → (∀ check ∈ checks, check.Passes p) → Makes p further (next a)) :
    Makes p (checks ++ further) (step >>= next) := by
  cases step with
  | error e => exact FirstFault.append hstep
  | ok a =>
    have hrest := hnext a rfl hstep
    simp only [Makes] at hrest ⊢
    cases hb : next a with
    | ok b =>
      rw [hb] at hrest
      simp only [Except.bind, Bind.bind, hb]
      exact List.forall_mem_append.2 ⟨hstep, hrest⟩
    | error e =>
      rw [hb] at hrest
      simp only [Except.bind, Bind.bind, hb]
      exact .behind hstep hrest

/-- `Makes` for a number with bounds and a default. -/
theorem Makes.bounded {given : Option Int} {low high : Int} {absent : Nat} {fault : Int → ListError}
    (hpasses : check.Passes p ↔ ∀ n ∈ given, low ≤ n ∧ n ≤ high)
    (herror : check.error? p = given.map fault) :
    Makes p [check] (match given with
      | none => .ok absent
      | some n => if low ≤ n ∧ n ≤ high then .ok n.toNat else .error (fault n)) := by
  refine .parameter hpasses herror (fun hgood => ?_) fun n hn hbad => ?_
  · cases given with
    | none => exact ⟨absent, rfl⟩
    | some n => exact ⟨n.toNat, if_pos (hgood n rfl)⟩
  · cases hn
    exact if_neg hbad

/-- `Makes` for a name in any case out of two, the first of which is the default. -/
theorem Makes.named {given : Option String} {first second : String} {a b : α}
    {fault : String → ListError} (hfirst : first.toList.all Char.isLower = true)
    (hsecond : second.toList.all Char.isLower = true)
    (hpasses : check.Passes p ↔ ∀ name ∈ given, SpelledAs name first ∨ SpelledAs name second)
    (herror : check.error? p = given.map fun name => fault (lowercase name)) :
    Makes p [check] (match given.map lowercase with
      | none => .ok a
      | some s => if s = first then .ok a else if s = second then .ok b else .error (fault s)) := by
  simp only [← lowercase_eq_iff hfirst, ← lowercase_eq_iff hsecond] at hpasses
  refine .parameter hpasses herror (fun hgood => ?_) fun name hname hbad => ?_
  · cases given with
    | none => exact ⟨a, rfl⟩
    | some name =>
      by_cases h : lowercase name = first
      · exact ⟨a, if_pos h⟩
      · exact ⟨b, (if_neg h).trans (if_pos ((hgood name rfl).resolve_left h))⟩
  · cases hname
    rw [not_or] at hbad
    exact (if_neg hbad.1).trans (if_neg hbad.2)

/-! ## The steps of validation -/

/-- `validLimit` makes the check `limit`. -/
theorem makes_validLimit : Makes p [.limit] p.validLimit :=
  .bounded Iff.rfl rfl

/-- `validSort` makes the check `sort`. -/
theorem makes_validSort : Makes p [.sort] p.validSort := by
  refine .parameter Iff.rfl rfl (fun hgood => ?_) fun name hname hbad => ?_
  · cases hp : p.sort with
    | none => exact ⟨.createdAt, by simp only [validSort, hp]⟩
    | some name =>
      obtain ⟨sort, hsort⟩ := SortBy.mem_names_iff.1 (hgood name hp)
      exact ⟨sort, by simp only [validSort, hp, hsort]⟩
  · have hnone : SortBy.ofName? name = none := by
      simpa [Option.eq_none_iff_forall_ne_some] using mt SortBy.mem_names_iff.2 hbad
    simp only [validSort, Option.mem_def.1 hname, hnone]

/-- `validSort` gives `namedSort`. -/
theorem eq_namedSort {sort : SortBy} (h : p.validSort = .ok sort) : sort = p.namedSort := by
  rw [validSort] at h
  rw [namedSort]
  cases hp : p.sort with
  | none =>
    simp only [hp, Except.ok.injEq] at h
    exact h.symm
  | some name =>
    simp only [hp] at h
    cases hname : SortBy.ofName? name with
    | none => simp only [hname, reduceCtorEq] at h
    | some sort' =>
      simp only [hname, Except.ok.injEq] at h
      simp only [Option.bind_some, hname, Option.getD_some, h]

/-- `validOrder` makes the check `order`. -/
theorem makes_validOrder : Makes p [.order] p.validOrder :=
  .named (by decide) (by decide) (by simp only [ParameterCheck.Passes, or_comm]) rfl

/-- `checkTogether` makes the four checks that combine parameters. -/
theorem makes_checkTogether :
    Makes p [.onePosition, .spanWithAnchor, .directionWithCursor, .limitWithoutAnchor]
      p.checkTogether := by
  refine .refuse ?_ rfl (.refuse ?_ rfl (.refuse ?_ rfl (.refuse ?_ rfl (.nil _))))
  · cases hc : p.cursor <;> cases ho : p.offset <;> cases ha : p.anchor <;>
      simp [ParameterCheck.Passes, hc, ho, ha]
  · cases hspan : p.span <;> simp [ParameterCheck.Passes, hspan]
  · cases hdirection : p.direction <;> simp [ParameterCheck.Passes, hdirection]
  · cases hlimit : p.limit <;> cases ha : p.anchor <;> simp [ParameterCheck.Passes, hlimit, ha]

/-- `validSpan` makes the check `span`. -/
theorem makes_validSpan : Makes p [.span] p.validSpan :=
  .bounded Iff.rfl rfl

/-- `validDirection` makes the check `direction`. -/
theorem makes_validDirection : Makes p [.direction] p.validDirection :=
  .named (by decide) (by decide) Iff.rfl rfl

/-- `validCursor` makes a check that a string decodes: `cursor` or `anchor`. -/
theorem makes_validCursor {raw : String}
    (hpasses : check.Passes p ↔ ∃ c, Cursor.decode raw p.namedSort = .ok c)
    (herror : check.error? p = ParameterCheck.cursorError? raw p.namedSort) :
    Makes p [check] (validCursor raw p.namedSort) := by
  rw [ParameterCheck.cursorError?] at herror
  rw [validCursor]
  cases hraw : Cursor.decode raw p.namedSort with
  | ok c => exact .skip (hpasses.2 ⟨c, hraw⟩) (.nil c)
  | error cause =>
    rw [hraw] at hpasses herror
    exact .cons (fun h => by simpa using hpasses.1 h) fun _ => ⟨_, herror, rfl⟩

/-- Parameters that pass the combining checks have one position at most, and no span or direction
without the position it belongs to. -/
theorem absent_of_passes (hone : ParameterCheck.onePosition.Passes p)
    (hspan : ParameterCheck.spanWithAnchor.Passes p)
    (hdirection : ParameterCheck.directionWithCursor.Passes p) :
    (p.anchor = none → p.span = none) ∧ (p.cursor = none → p.direction = none)
      ∧ (p.offset ≠ none → p.anchor = none ∧ p.cursor = none)
      ∧ (p.anchor ≠ none → p.cursor = none) := by
  simp only [ParameterCheck.Passes, ← Option.ne_none_iff_isSome] at hone hspan hdirection
  refine ⟨?_, ?_, ?_, ?_⟩
  · exact fun ha => by_contra fun hs => hspan hs ha
  · exact fun hc => by_contra fun hd => hdirection hd hc
  · exact fun ho => ⟨by_contra fun ha => hone.2.2 ⟨ho, ha⟩, by_contra fun hc => hone.1 ⟨hc, ho⟩⟩
  · exact fun ha => by_contra fun hc => hone.2.1 ⟨hc, ha⟩

/-- `validStart` makes the checks of the positions, once the combining checks have passed. -/
theorem makes_validStart (hone : ParameterCheck.onePosition.Passes p)
    (hspan : ParameterCheck.spanWithAnchor.Passes p)
    (hdirection : ParameterCheck.directionWithCursor.Passes p) :
    Makes p [.offset, .span, .anchor, .direction, .cursor] (p.validStart p.namedSort) := by
  obtain ⟨hs, hd, hoffset, hanchor⟩ := absent_of_passes hone hspan hdirection
  cases ho : p.offset with
  | some n =>
    obtain ⟨ha, hc⟩ := hoffset (by simp [ho])
    have hpasses : ParameterCheck.offset.Passes p ↔ 0 ≤ n ∧ n ≤ (maxOffset : Int) := by
      simp [ParameterCheck.Passes, ho, maxOffset]
    simp only [validStart, ho]
    refine .cons (fun h => ?_) fun h => ⟨_, ?_, if_neg (mt hpasses.2 h)⟩
    · rw [if_pos (hpasses.1 h)]
      refine .skip ?_ (.skip ?_ (.skip ?_ (.skip ?_ (.nil _))))
      · simp [ParameterCheck.Passes, hs ha]
      · simp [ParameterCheck.Passes, ha]
      · simp [ParameterCheck.Passes, hd hc]
      · simp [ParameterCheck.Passes, hc]
    · simp only [ParameterCheck.error?, ho, Option.map_some]
  | none =>
    refine .skip (by simp [ParameterCheck.Passes, ho]) ?_
    cases ha : p.anchor with
    | some raw =>
      have hc := hanchor (by simp [ha])
      have hread : Makes p [.anchor] (validCursor raw p.namedSort) :=
        makes_validCursor (by simp [ParameterCheck.Passes, ha])
          (by simp [ParameterCheck.error?, ha])
      simp only [validStart, ho, ha]
      refine makes_validSpan.bind fun span _ _ => hread.bind fun anchor _ _ => ?_
      refine .skip ?_ (.skip ?_ (.nil _))
      · simp [ParameterCheck.Passes, hd hc]
      · simp [ParameterCheck.Passes, hc]
    | none =>
      refine .skip (by simp [ParameterCheck.Passes, hs ha]) ?_
      refine .skip (by simp [ParameterCheck.Passes, ha]) ?_
      simp only [validStart, ho, ha]
      refine makes_validDirection.bind fun direction _ _ => ?_
      cases hc : p.cursor with
      | none => exact .skip (by simp [ParameterCheck.Passes, hc]) (.nil _)
      | some raw =>
        have hread : Makes p [.cursor] (validCursor raw p.namedSort) :=
          makes_validCursor (by simp [ParameterCheck.Passes, hc])
            (by simp [ParameterCheck.error?, hc])
        exact hread.bind fun cursor _ _ => .nil _

/-- `validSearch` makes the check `search`. -/
theorem makes_validSearch : Makes p [.search] p.validSearch := by
  cases hp : p.search with
  | none =>
    simp only [validSearch, hp, Option.map_none]
    exact .skip (by simp [ParameterCheck.Passes, hp]) (.nil _)
  | some text =>
    have hpasses : ParameterCheck.search.Passes p
        ↔ ¬ maxSearchLength < (Text.trim text).length := by
      simp [ParameterCheck.Passes, hp, maxSearchLength]
    simp only [validSearch, hp, Option.map_some]
    generalize Text.trim text = trimmed at hpasses ⊢
    by_cases hempty : trimmed.isEmpty = true
    · rw [if_pos hempty]
      refine .skip (hpasses.2 ?_) (.nil _)
      rw [String.isEmpty_iff.1 hempty]
      decide
    · rw [if_neg hempty]
      exact .refuse (not_iff_not.1 (by rw [not_not, ← hpasses])) rfl (.nil _)

/-- `validate` makes `ParameterCheck.all`. -/
theorem validate_makes (p : Parameters) : Makes p ParameterCheck.all p.validate := by
  refine makes_validLimit.bind fun limit _ _ => makes_validSort.bind fun sort hsort _ =>
    makes_validOrder.bind fun order _ _ => makes_checkTogether.bind fun _ _ htogether => ?_
  obtain rfl := eq_namedSort hsort
  simp only [List.forall_mem_cons] at htogether
  obtain ⟨hone, hspan, hdirection, -⟩ := htogether
  exact (makes_validStart hone hspan hdirection).bind fun start _ _ =>
    makes_validSearch.bind fun search _ _ => .nil _

end Parameters

/-! ## Requests -/

/-- The cursor is of the form that listings of the sort use. -/
def Cursor.Fits (sort : SortBy) : Cursor → Prop
  | .note _ => sort ≠ .title
  | .titled _ _ => sort = .title

/-- `Cursor.Fits` by whether the cursor and the sort carry titles. -/
theorem Cursor.fits_iff {c : Cursor} {sort : SortBy} :
    c.Fits sort ↔ sort.carriesTitle = c.title?.isSome := by
  cases c <;> cases sort <;> simp [Fits, SortBy.carriesTitle, title?]

/-- The start is within the bounds of its way to ask, and its cursor fits the sort. -/
def PageStart.WithinBounds (sort : SortBy) : PageStart → Prop
  | .cursor none _ => True
  | .cursor (some c) _ => c.Fits sort
  | .offset k => k ≤ 50000
  | .anchor c span => c.Fits sort ∧ 1 ≤ span ∧ span ≤ 50

/-- The request is one that listings can be asked with. -/
structure ListRequest.WithinBounds (r : ListRequest) : Prop where
  limit : 1 ≤ r.limit ∧ r.limit ≤ 100
  start : r.start.WithinBounds r.sort
  search : ∀ text ∈ r.search, text ≠ "" ∧ Text.trim text = text ∧ text.length ≤ 256

/-- `Text.trim` is idempotent. -/
theorem Text.trim_trim (s : String) : trim (trim s) = trim s := by
  have htrim (cs : List Char) : trimChars cs = (cs.dropWhile isBlank).rdropWhile isBlank := rfl
  have hagain (cs : List Char) : trimChars (trimChars cs) = trimChars cs := by
    -- What is left starts as the text did before the blanks at its end were removed.
    have hfront : (trimChars cs).dropWhile isBlank = trimChars cs := by
      rw [List.dropWhile_eq_self_iff]
      intro hpos
      have hinitial := List.rdropWhile_prefix isBlank (cs.dropWhile isBlank)
      rw [← htrim] at hinitial
      rw [hinitial.getElem hpos]
      exact List.dropWhile_eq_self_iff.1 (List.dropWhile_idempotent _ cs)
        (hpos.trans_le hinitial.length_le)
    rw [htrim (trimChars cs), hfront, htrim, List.rdropWhile_idempotent]
  rw [trim, trim, String.toList_ofList, hagain]

namespace Parameters

variable {p : Parameters} {r : ListRequest} {sort : SortBy}

/-- `validCursor` gives cursors that fit the sort. -/
theorem fits_of_validCursor {raw : String} {c : Cursor} (h : validCursor raw sort = .ok c) :
    c.Fits sort :=
  Cursor.fits_iff.2 (Cursor.title?_of_decode (validCursor_eq_ok_iff.1 h))

/-- `validSpan` gives spans between 1 and 50. -/
theorem span_bounds {span : Nat} (h : p.validSpan = .ok span) : 1 ≤ span ∧ span ≤ 50 :=
  bounds_of_given (by decide) h

/-- `validStart` gives starts with `WithinBounds`. -/
theorem start_withinBounds {start : PageStart} (h : p.validStart sort = .ok start) :
    start.WithinBounds sort := by
  rw [validStart] at h
  cases ho : p.offset with
  | some n =>
    simp only [ho] at h
    by_cases hn : 0 ≤ n ∧ n ≤ (maxOffset : Int)
    · rw [if_pos hn] at h
      cases h
      have hmax : maxOffset = 50000 := rfl
      simp only [PageStart.WithinBounds]
      omega
    · rw [if_neg hn] at h
      cases h
  | none =>
    cases ha : p.anchor with
    | some raw =>
      simp only [ho, ha, bind_eq_ok_iff] at h
      obtain ⟨span, hspan, anchor, hanchor, h⟩ := h
      cases h
      exact ⟨fits_of_validCursor hanchor, span_bounds hspan⟩
    | none =>
      simp only [ho, ha, bind_eq_ok_iff] at h
      obtain ⟨direction, -, h⟩ := h
      cases hc : p.cursor with
      | none =>
        simp only [hc] at h
        cases h
        trivial
      | some raw =>
        simp only [hc, bind_eq_ok_iff] at h
        obtain ⟨cursor, hcursor, h⟩ := h
        cases h
        exact fits_of_validCursor hcursor

/-- `validSearch` gives texts that are trimmed, not empty and at most 256 long. -/
theorem search_withinBounds {search : Option String} (h : p.validSearch = .ok search) :
    ∀ text ∈ search, text ≠ "" ∧ Text.trim text = text ∧ text.length ≤ 256 := by
  intro text htext
  cases htext
  rw [validSearch] at h
  cases hp : p.search with
  | none => simp only [hp, Option.map_none, Except.ok.injEq, reduceCtorEq] at h
  | some given =>
    simp only [hp, Option.map_some] at h
    by_cases hempty : (Text.trim given).isEmpty = true
    · rw [if_pos hempty] at h
      cases h
    · rw [if_neg hempty] at h
      by_cases hlength : maxSearchLength < (Text.trim given).length
      · rw [if_pos hlength] at h
        cases h
      · rw [if_neg hlength] at h
        cases h
        exact ⟨mt String.isEmpty_iff.2 hempty, Text.trim_trim given, Nat.not_lt.1 hlength⟩

/-- `validate` succeeds exactly when every `ParameterCheck` passes. Otherwise its error is the
`FirstFault` in the order limit, sort, order, the combinations of parameters, the positions and
their parameters, search. The requests that it gives are `WithinBounds`: their numbers, the form of
the cursor or anchor for the sort, and the trimmed search text, which is not empty. -/
theorem validate_exact (p : Parameters) :
    ((∃ r, p.validate = .ok r) ↔ ∀ check, ParameterCheck.Passes p check)
    ∧ (∀ e, p.validate = .error e ↔ FirstFault p
      [.limit, .sort, .order, .onePosition, .spanWithAnchor, .directionWithCursor,
        .limitWithoutAnchor, .offset, .span, .anchor, .direction, .cursor, .search] e)
    ∧ ∀ r, p.validate = .ok r → r.WithinBounds := by
  have hmakes := validate_makes p
  have hall (check : ParameterCheck) : check ∈ ParameterCheck.all := by cases check <;> decide
  refine ⟨?_, fun e => hmakes.error_iff, fun r hr => ?_⟩
  · rw [hmakes.ok_iff]
    exact ⟨fun h check => h check (hall check), fun h check _ => h check⟩
  · obtain ⟨-, -, -, -, hstart, hsearch, -⟩ := validate_eq_ok_iff.1 hr
    exact ⟨limit_bounds hr, start_withinBounds hstart, search_withinBounds hsearch⟩

/-- `validate_exact` for parameters with a span and an anchor that are both invalid, and for an
order in upper case. -/
theorem validate_exact_faults :
    Parameters.validate { anchor := some "zz", span := some 0, order := some "ASC" }
        = .error (.badRequest (.spanOutOfRange 0))
      ∧ ∃ r, Parameters.validate { offset := some 7, limit := some 100, order := some "ASC" }
        = .ok r ∧ r.WithinBounds := by
  have hasc : SpelledAs "ASC" "asc" := (lowercase_eq_iff (by decide)).1 (by decide)
  constructor
  · refine ((validate_exact _).2.1 _).2 ?_
    refine .later ?_ (.later ?_ (.later ?_ (.later ?_ (.later ?_ (.later ?_ (.later ?_ (.later ?_
      (.here ?_ rfl))))))))
    all_goals simp [ParameterCheck.Passes, hasc]
  · have haccepted : ∃ r, Parameters.validate
        { offset := some 7, limit := some 100, order := some "ASC" } = .ok r := by
      refine (validate_exact _).1.2 fun check => ?_
      cases check <;> simp [ParameterCheck.Passes, hasc]
    obtain ⟨r, hr⟩ := haccepted
    exact ⟨r, hr, (validate_exact _).2.2 r hr⟩

end Parameters

end NotePager
