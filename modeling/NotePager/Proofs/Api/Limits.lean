import NotePager.Proofs.Api.ErrorBody
import NotePager.Proofs.Api.Recency
import NotePager.Proofs.Store.Limits

/-!
# Limits of texts and requests

Notes come into a store in two ways: as a draft, and by a patch of a note that is there. Both are
checked before anything is written, so a request leaves all notes within the limits, and the notes
that stay keep their identifier, owner and time of creation (`serve_written`). By induction this
holds after any number of requests (`run_fits`). What a check refuses is answered with the first
text over its limit, and nothing else is answered in that way.
-/

namespace NotePager

open Access Encoding Http Text

/-- The store `s'` is left when nothing is done to the notes of `s`, or one write within the
limits. -/
def Store.Written (s s' : Store) : Prop := s' = s ∨ ∃ w : StoreWrite, w.Fits ∧ s' = w.apply s

/-- A store that is `Written` from one whose notes all `Fit` has notes that all `Fit`. -/
theorem Store.Written.fits {s s' : Store} (h : s.Written s') (hs : ∀ n ∈ s.notes, n.Fits) :
    ∀ n ∈ s'.notes, n.Fits := by
  rcases h with rfl | ⟨w, hw, rfl⟩
  · exact hs
  · exact StoreWrite.apply_fits hw hs

/-- A store that is `Written` from another `Keeps` its notes. -/
theorem Store.Written.keeps {s s' : Store} (h : s.Written s') : s.Keeps s' := by
  rcases h with rfl | ⟨w, -, rfl⟩
  · exact .refl s'
  · exact w.apply_keeps s

variable {settings : Settings} {occasion : Occasion} {limit : Nat} {r : Request} {s : Store}
  {c : Connection}

/-! ## What requests write -/

/-- Texts of which `firstOver` finds none that is too long are `TextsFit`. -/
theorem textsFit_of_check {value : NoteText → Option String}
    (h : overLimit (firstOver value) = .ok ()) : TextsFit value := by
  rw [← firstOver_eq_none_iff]
  cases hover : firstOver value with
  | none => rfl
  | some text => rw [hover] at h; cases h

/-- `Notes.work` of any operation leaves a store that is `Written` from the one it found. -/
theorem Notes.work_written (s : Store) (settings : Settings) (occasion : Occasion) (limit : Nat)
    (segment : String) (r : Request) (op : ApiOperation) :
    AllOrNothing s (work settings occasion limit segment r op) s fun _ s' => s.Written s' := by
  cases op with
  | list => exact (list_keeps s settings r).imp fun _ _ => .inl
  | get => exact (get_keeps s settings segment r).imp fun _ _ => .inl
  | create =>
    refine orRefuse_bind fun owner _ => orRefuse_bind fun draft _ =>
      orRefuse_bind fun _ hcheck => ?_
    refine .bind (.mapError _ (.insert (draft.note occasion.noteId owner occasion.now))) ?_
    rintro note s' ⟨rfl, hnew, hnotes⟩
    have hfits : TextsFit draft.text? := textsFit_of_check (draft.check_eq ▸ hcheck)
    refine .pure (.inr ⟨.insert (draft.note occasion.noteId owner occasion.now),
      Draft.note_fits hfits .., ?_⟩)
    rw [StoreWrite.apply, Store.insert_of_new hnew]
    exact congrArg Store.mk hnotes
  | update =>
    refine orRefuse_bind fun owner _ => pathText_bind fun raw _ => orRefuse_bind fun id _ =>
      orRefuse_bind fun patch _ => orRefuse_bind fun _ hcheck => ?_
    by_cases hempty : patch.isEmpty = true
    · rw [if_pos hempty]
      exact .halt _
    · rw [if_neg hempty]
      refine .bind (.mapError _ (.updated owner id patch occasion.now)) fun found s' hupdate => ?_
      cases found with
      | none =>
        obtain rfl : s' = s := (congrArg Prod.snd hupdate).trans
          (Store.update_none (congrArg Prod.fst hupdate).symm)
        exact .halt _
      | some note =>
        have hfits : TextsFit patch.text? := textsFit_of_check (patch.check_eq ▸ hcheck)
        exact .pure (.inr ⟨.update owner id patch occasion.now, hfits, congrArg Prod.snd hupdate⟩)
  | delete =>
    refine orRefuse_bind fun owner _ => pathText_bind fun raw _ => orRefuse_bind fun id _ => ?_
    refine .bind (.mapError _ (.deleted owner id)) fun found s' hdelete => ?_
    cases found with
    | false =>
      obtain rfl : s' = s := (congrArg Prod.snd hdelete).trans
        (Store.delete_false (congrArg Prod.fst hdelete).symm)
      exact .halt _
    | true => exact .pure (.inr ⟨.delete owner id, trivial, congrArg Prod.snd hdelete⟩)

namespace Server

/-- `Server.answer` leaves a store that is `Written` from the one it found. -/
theorem answer_written (settings : Settings) (occasion : Occasion) (limit : Nat) (r : Request)
    (c : Connection) : c.store.Written (answer settings occasion limit r c).2.store := by
  rw [answer]
  cases Resource.ofPath? r.path with
  | none => exact .inl rfl
  | some resource =>
    have hwritten := endpoint_cases resource
      (P := fun work => AllOrNothing c.store work c.store fun _ s' => c.store.Written s')
      (fun op _ => Notes.work_written c.store settings occasion limit _ r op)
      (fun _ => .pure (.inl rfl))
      (fun _ => (Health.ready_keeps c.store settings).imp fun _ _ => .inl) (.pure (.inl rfl))
    rcases hwritten c rfl with ⟨response, c', hendpoint, hstore⟩ | ⟨halt, c', hendpoint, hstore⟩
    · simp only [hendpoint]
      exact hstore
    · rcases halt with _ | _ | _ <;> (simp only [hendpoint]; exact .inl hstore)

/-- `Server.serve` leaves a store that is `Written` from the one it found. -/
theorem serve_written (settings : Settings) (header : String) (occasion : Occasion) (r : Request)
    (c : Connection) : c.store.Written (serve settings header occasion r c).2.store := by
  rcases serve_connection settings header occasion r c with hsame | hanswer
  · exact .inl (by rw [hsame])
  · rw [hanswer]
    exact answer_written ..

/-- An `Arrival` that is served leaves a store that is `Written` from the one it found. -/
theorem Arrival.served_written (settings : Settings) (header : String) (s : Store) (a : Arrival) :
    s.Written (a.served settings header s).2 :=
  serve_written settings header a.occasion a.request
    { store := s, cancelled := a.cancelled, faults := a.faults }

/-- `run` of one arrival more goes on from the store that the `run` so far has left. -/
theorem run_append (settings : Settings) (header : String) (s : Store) (arrivals : List Arrival)
    (a : Arrival) : (run settings header s (arrivals ++ [a])).2
      = (a.served settings header (run settings header s arrivals).2).2 := by
  induction arrivals generalizing s with
  | nil => rfl
  | cons b arrivals ih => exact ih _

/-- `run` keeps that all notes `Fit`, however many arrivals there are. -/
theorem run_fits (settings : Settings) (header : String) (hs : ∀ n ∈ s.notes, n.Fits)
    (arrivals : List Arrival) : ∀ n ∈ (run settings header s arrivals).2.notes, n.Fits := by
  induction arrivals generalizing s with
  | nil => exact hs
  | cons a arrivals ih => exact ih ((a.served_written settings header s).fits hs)

/-! ## Texts over their limits -/

/-- What an endpoint does about the texts of the bodies that it reads. -/
structure ChecksTexts (settings : Settings) (occasion : Occasion) (limit : Nat) (r : Request)
    (c : Connection) (op : ApiOperation) (body : Except BodyError α)
    (text? : α → NoteText → Option String) : Prop where
  /-- It answers that something cannot be processed exactly when the body can be read and holds a
  text over its limit. -/
  refuses : (∃ response, (answer settings occasion limit r c).1.response? = some response
      ∧ response.status = 422)
    ↔ ∃ a, body = .ok a ∧ ¬ TextsFit (text? a)
  /-- It names the first such text, and does nothing. -/
  names : ∀ a text, body = .ok a → firstOver (text? a) = some text →
    answer settings occasion limit r c = (.answered (ApiError.response
      ⟨op, .validationFailed, TextTooLong.message ⟨text, text.limit⟩⟩), c)

/-- `Server.answer` has status 422 exactly when the request `Fails` with a failure of the kind
`validationFailed`. -/
theorem answer_unprocessable_iff {op : ApiOperation} (hop : called? r = some op) :
    (∃ response, (answer settings occasion limit r c).1.response? = some response
        ∧ response.status = 422)
      ↔ ∃ f, Fails settings occasion limit r c op f ∧ f.kind = .validationFailed := by
  constructor
  · rintro ⟨response, hresponse, hstatus⟩
    obtain ⟨resource, hpath, hop⟩ := Option.bind_eq_some_iff.1 hop
    rw [answer_called hpath hop] at hresponse
    cases hwork : (Notes.work settings occasion limit resource.segment r op c).1 with
    | ok told =>
      rw [hwork] at hresponse
      cases hresponse
      have hok := (Notes.work_succeeds _ _ _ _ _ _ _ _ hwork).status
      omega
    | error halt =>
      rw [hwork] at hresponse
      obtain ⟨refusal, hhalt, rfl⟩ := Option.map_eq_some_iff.1 hresponse
      cases refusal with
      | badPath => cases hstatus
      | error e =>
        obtain ⟨f, hfails, rfl⟩ := (Notes.error?_work hpath hop).1
          (by rw [error?, hwork]; exact hhalt)
        refine ⟨f, hfails, ?_⟩
        have hkind : f.kind.status = 422 := hstatus
        cases hf : f.kind <;> rw [hf] at hkind <;> first | rfl | cases hkind
  · rintro ⟨f, hfails, hkind⟩
    obtain ⟨hresponse, -⟩ := (answer_error_iff hop).2 ⟨rfl, f, hfails, rfl⟩
    exact ⟨_, hresponse, congrArg ApiErrorKind.status hkind⟩

/-- Texts of which `firstOver` finds one that is too long are not `TextsFit`. -/
theorem not_textsFit_of_check {value : NoteText → Option String} {cause : TextTooLong}
    (h : overLimit (firstOver value) = .error cause) : ¬ TextsFit value := by
  rw [← firstOver_eq_none_iff]
  intro hnone
  rw [hnone] at h
  cases h

/-- `firstOver` finds one of the texts that are not `TextsFit`. -/
theorem exists_firstOver {value : NoteText → Option String} (h : ¬ TextsFit value) :
    ∃ text, firstOver value = some text := by
  rw [← firstOver_eq_none_iff] at h
  exact Option.ne_none_iff_exists'.1 h

section
variable {owner : Owner} (hcaller : Notes.callerOf settings r = .ok owner)
include hcaller

/-- A request for `create` `ChecksTexts` of its draft. -/
theorem create_checksTexts (hop : called? r = some .create) (c : Connection) :
    ChecksTexts settings occasion limit r c .create (readBody Draft.reader limit r)
      Draft.text? where
  refuses := by
    rw [answer_unprocessable_iff hop]
    constructor
    · rintro ⟨f, hfails, hkind⟩
      -- Of all failures of the endpoint only that of the check has this kind.
      cases hfails with
      | draftText _ hbody hcheck =>
        exact ⟨_, hbody, not_textsFit_of_check (Draft.check_eq _ ▸ hcheck)⟩
      | insertFailed => rcases Failure.kind_store _ with h | h <;> cases h.symm.trans hkind
      | _ => cases hkind
    · rintro ⟨draft, hbody, hover⟩
      obtain ⟨text, htext⟩ := exists_firstOver hover
      exact ⟨_, .draftText hcaller hbody (by rw [Draft.check_eq, htext, overLimit]), rfl⟩
  names draft text hbody htext := by
    obtain ⟨resource, hpath, hop⟩ := Option.bind_eq_some_iff.1 hop
    have hcheck : draft.check = .error ⟨text, text.limit⟩ := by
      rw [Draft.check_eq, htext, overLimit]
    simp only [answer, hpath, endpoint_eq hop, Notes.work, Notes.create, hcaller, hbody,
      Notes.orRefuse_ok_bind, hcheck, Notes.orRefuse_error_bind]
    rfl

/-- A request for `update` of what the path names `ChecksTexts` of its patch, whether or not there
is such a note. -/
theorem update_checksTexts (hop : called? r = some .update) {id : NoteId}
    (hid : namedNote? r.path = some id) (c : Connection) :
    ChecksTexts settings occasion limit r c .update (readBody Patch.reader limit r)
      Patch.text? where
  refuses := by
    rw [answer_unprocessable_iff hop]
    constructor
    · rintro ⟨f, hfails, hkind⟩
      cases hfails with
      | patchText _ _ hbody hcheck =>
        exact ⟨_, hbody, not_textsFit_of_check (Patch.check_eq _ ▸ hcheck)⟩
      | updateFailed => rcases Failure.kind_store _ with h | h <;> cases h.symm.trans hkind
      | _ => cases hkind
    · rintro ⟨patch, hbody, hover⟩
      obtain ⟨text, htext⟩ := exists_firstOver hover
      exact ⟨_, .patchText hcaller hid hbody (by rw [Patch.check_eq, htext, overLimit]), rfl⟩
  names patch text hbody htext := by
    obtain ⟨segment, hpath, hop⟩ := exists_segment_of_named hop hid
    have hcheck : patch.check = .error ⟨text, text.limit⟩ := by
      rw [Patch.check_eq, htext, overLimit]
    simp only [answer, hpath, endpoint_eq hop, Notes.work, Notes.update, hcaller, hbody,
      Resource.segment, Notes.noteNamed_bind hpath hid,
      Notes.orRefuse_ok_bind, hcheck, Notes.orRefuse_error_bind]
    rfl

end

/-- `run` from a store whose notes all `Fit` keeps that they do, for any arrivals of any owners,
with whatever faults, and `Keeps` the identifier, the owner and the time of creation of every note
that is still there. A request for `create`, and one for `update` of what is an identifier,
`ChecksTexts` of its body if `callerOf` finds an owner: it is answered with 422 exactly when the
body can be read and one of its texts is over its limit, and the first such text is named, whether
or not there is a note to be patched. -/
theorem run_withinLimits (settings : Settings) (header : String) (hs : ∀ n ∈ s.notes, n.Fits) :
    (∀ arrivals : List Arrival, (∀ n ∈ (run settings header s arrivals).2.notes, n.Fits)
      ∧ ∀ a, (run settings header s arrivals).2.Keeps (run settings header s (arrivals ++ [a])).2)
    ∧ ∀ (occasion : Occasion) (limit : Nat) (r : Request) (c : Connection) (owner : Owner),
      Notes.callerOf settings r = .ok owner →
        (called? r = some .create → ChecksTexts settings occasion limit r c .create
          (readBody Draft.reader limit r) Draft.text?)
        ∧ (called? r = some .update → (namedNote? r.path).isSome →
          ChecksTexts settings occasion limit r c .update
            (readBody Patch.reader limit r) Patch.text?) := by
  refine ⟨fun arrivals => ⟨run_fits settings header hs arrivals, fun a => ?_⟩,
    fun occasion limit r c owner hcaller => ⟨fun hop => ?_, fun hop hnamed => ?_⟩⟩
  · rw [run_append]
    exact (a.served_written settings header _).keeps
  · exact create_checksTexts hcaller hop c
  · obtain ⟨id, hid⟩ := Option.isSome_iff_exists.1 hnamed
    exact update_checksTexts hcaller hop hid c

/-- A color of 33 characters, which are 66 bytes. -/
def longColor : String := String.ofList (List.replicate 33 'é')

/-- A request that a note have the color `longColor`. -/
def colorRequest (method path : String) : Request :=
  (arrivalAt 5 method path ("\x7b\"color\": \"" ++ longColor ++ "\"\x7d")).request

/-- `run_withinLimits` for `teaParty` from an empty store, and for `colorRequest`: a note with
`longColor` cannot be written, and a note that is not there cannot be given this color. -/
theorem run_withinLimits_teaParty :
    (∀ n ∈ (run {} "x-request-id" {} teaParty).2.notes, n.Fits)
    ∧ ∀ request ∈ [(ApiOperation.create, colorRequest "POST" "/api/v1/notes"),
        (.update, colorRequest "PATCH" "/api/v1/notes/000000000000000000000009")],
      (answer {} firstOccasion 100 request.2 { store := {} }).1 = .answered (ApiError.response
        ⟨request.1, .validationFailed, "color must be at most 32 characters"⟩) := by
  obtain ⟨hrun, hchecks⟩ := run_withinLimits (s := {}) {} "x-request-id" fun n hn => by cases hn
  refine ⟨(hrun teaParty).1, List.forall_mem_cons.2 ⟨?_, List.forall_mem_singleton.2 ?_⟩⟩
  · obtain ⟨hcreate, -⟩ := hchecks firstOccasion 100 (colorRequest "POST" "/api/v1/notes")
      { store := {} } ⟨"ann"⟩ (by decide +kernel)
    exact congrArg Prod.fst ((hcreate (by decide +kernel)).names { color := longColor } .color
      (by decide +kernel) (by decide +kernel))
  · obtain ⟨-, hupdate⟩ := hchecks firstOccasion 100
      (colorRequest "PATCH" "/api/v1/notes/000000000000000000000009")
      { store := {} } ⟨"ann"⟩ (by decide +kernel)
    exact congrArg Prod.fst ((hupdate (by decide +kernel) (by decide +kernel)).names
      { color := some longColor } .color (by decide +kernel) (by decide +kernel))

end Server

end NotePager
