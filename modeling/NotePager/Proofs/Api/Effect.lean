import NotePager.Proofs.Api.Operation
import NotePager.Proofs.Paging.Rearranged
import NotePager.Proofs.Store.AllOrNothing

/-!
# What requests do to the notes

`Effect` lists all that can become of the notes of a store when a request is answered: nothing, or
one note of the caller is added, patched or removed, which the response names. Every endpoint has
such an effect or halts before it has any (`endpoint_effect`), and nothing that the server does
around the endpoints adds another (`answer_effect`, `serve_effect`). So the notes are unchanged
after every response with an error.
-/

namespace NotePager

open Access Encoding Http Text

/-- The note that a path names: the segment behind the resource, decoded and read by
`NoteId.ofHex`. -/
def namedNote? (path : String) : Option NoteId :=
  match Resource.ofPath? path with
  | some (.note segment) =>
    (ofUtf8? (Percent.decode (utf8 segment))).bind fun raw => (NoteId.ofHex raw).toOption
  | _ => none

/-- What a request may do to the notes of the store `s`: the response that it gets, and the store
that it leaves. -/
inductive Effect (settings : Settings) (occasion : Occasion) (r : Request) (s : Store) :
    Response → Store → Prop
  /-- The request is refused, or it only reads. -/
  | nothing {response : Response}
      (hread : 400 ≤ response.status ∨ r.method = "GET" ∨ r.method = "HEAD") :
      Effect settings occasion r s response s
  /-- The caller's new note stands behind the others. -/
  | added {response : Response} {s' : Store} {draft : Draft} {owner : Owner} {note : Note}
      (hmethod : r.method = "POST") (hstatus : response.status = 201)
      (hcaller : Notes.callerOf settings r = .ok owner)
      (hnote : note = draft.note occasion.noteId owner occasion.now)
      (hbody : response.body = .json note.json) (hnew : ∀ n ∈ s.notes, n.id ≠ note.id)
      (hnotes : s'.notes = s.notes ++ [note]) :
      Effect settings occasion r s response s'
  /-- The caller's note that the path names has been patched in its place. -/
  | patched {response : Response} {s' : Store} {patch : Patch} {front back : List Note}
      {n note : Note} (hmethod : r.method = "PATCH") (hstatus : response.status = 200)
      (hcaller : Notes.callerOf settings r = .ok n.owner) (hid : namedNote? r.path = some n.id)
      (hnote : note = patch.apply n occasion.now) (hbody : response.body = .json note.json)
      (hcut : s.notes = front ++ n :: back) (hnotes : s'.notes = front ++ note :: back) :
      Effect settings occasion r s response s'
  /-- The caller's note that the path names has been removed. -/
  | removed {response : Response} {s' : Store} {front back : List Note} {n : Note}
      (hmethod : r.method = "DELETE") (hstatus : response.status = 204)
      (hcaller : Notes.callerOf settings r = .ok n.owner) (hid : namedNote? r.path = some n.id)
      (hcut : s.notes = front ++ n :: back) (hnotes : s'.notes = front ++ back) :
      Effect settings occasion r s response s'

variable {settings : Settings} {occasion : Occasion} {r : Request} {s s' : Store}

/-- `Effect` holds of a store that is left as it was and a response whose status is that of an
error. -/
theorem Effect.failed {response : Response} (hstore : s' = s) (hstatus : 400 ≤ response.status) :
    Effect settings occasion r s response s' :=
  hstore ▸ .nothing (.inl hstatus)

/-- `Effect` looks at the status and the body of the response only, and not at the body when the
method is `HEAD`. -/
theorem Effect.of_response {response response' : Response}
    (h : Effect settings occasion r s response s') (hstatus : response'.status = response.status)
    (hbody : response'.body = response.body ∨ r.method = "HEAD") :
    Effect settings occasion r s response' s' := by
  cases h with
  | nothing hread => exact .nothing (hstatus ▸ hread)
  | added hmethod hcreated hcaller hnote htold hnew hnotes =>
    have hsame := hbody.resolve_right (by simp [hmethod])
    exact .added hmethod (hstatus.trans hcreated) hcaller hnote (hsame.trans htold) hnew hnotes
  | patched hmethod hpatched hcaller hid hnote htold hcut hnotes =>
    have hsame := hbody.resolve_right (by simp [hmethod])
    exact .patched hmethod (hstatus.trans hpatched) hcaller hid hnote (hsame.trans htold) hcut
      hnotes
  | removed hmethod hremoved hcaller hid hcut hnotes =>
    exact .removed hmethod (hstatus.trans hremoved) hcaller hid hcut hnotes

/-- The response of a `Refusal` has a status from 400 on, for an `ApiError` as for `badPath`. -/
theorem Refusal.le_status (refusal : Refusal) : 400 ≤ refusal.response.status := by
  cases refusal with
  | error e =>
    have hkind : 400 ≤ e.kind.status := by cases e.kind <;> decide
    exact hkind
  | badPath => decide

/-! ## Endpoints -/

namespace Notes

/-- `AllOrNothing` of work behind `orRefuse`: it is enough that what follows is `AllOrNothing` for
the values that the check lets through. -/
theorem orRefuse_bind {f : ε → ApiError} {x : Except ε α} {k : α → Work β}
    {done : β → Store → Prop} (hk : ∀ a, x = .ok a → AllOrNothing s (k a) s done) :
    AllOrNothing s (orRefuse f x >>= k) s done := by
  cases x with
  | ok a => exact hk a rfl
  | error e => exact .halt _

/-- `AllOrNothing` of work behind `pathText`: it is enough that what follows is so for the text that
the segment is read as. -/
theorem pathText_bind {segment : String} {k : String → Work β} {done : β → Store → Prop}
    (hk : ∀ raw, ofUtf8? (Percent.decode (utf8 segment)) = some raw →
      AllOrNothing s (k raw) s done) : AllOrNothing s (pathText segment >>= k) s done := by
  rw [pathText]
  cases hraw : ofUtf8? (Percent.decode (utf8 segment)) with
  | some raw => exact hk raw hraw
  | none => exact .halt _

/-- A segment that is read as text and named by `noteNamed` is what `namedNote?` finds in the
path. -/
theorem namedNote?_eq {segment raw : String} {operation : ApiOperation} {id : NoteId}
    (hpath : Resource.ofPath? r.path = some (.note segment))
    (hraw : ofUtf8? (Percent.decode (utf8 segment)) = some raw)
    (hid : noteNamed raw operation = .ok id) : namedNote? r.path = some id := by
  rw [noteNamed] at hid
  cases hhex : NoteId.ofHex raw with
  | error e => simp [hhex] at hid
  | ok id' =>
    simp only [hhex, Except.ok.injEq] at hid
    simp [namedNote?, hpath, hraw, hhex, hid, Except.toOption]

/-- `Notes.list` leaves the store as it is. -/
theorem list_keeps (s : Store) (settings : Settings) (r : Request) :
    AllOrNothing s (list settings r) s fun _ s' => s' = s := by
  refine orRefuse_bind fun owner _ => orRefuse_bind fun parameters _ =>
    orRefuse_bind fun request _ => .bind (?_ : AllOrNothing s _ s fun _ s' => s' = s) ?_
  · intro c hc
    have hfetch : AllOrNothing s (Listing.fetch owner request) s fun _ s' => s' = s :=
      .of_alike (Listing.alike_fetch (.refl s) (.refl _) rfl)
    rcases hfetch.settle c hc with ⟨page, c', hsettled, hstore⟩ | ⟨halt, c', hsettled, hstore⟩
    · exact .inl ⟨page, c', by dsimp only; rw [hsettled], hstore⟩
    · rcases halt with e | w | _ <;> exact .inr ⟨_, c', by dsimp only; rw [hsettled], hstore⟩
  · rintro page _ rfl
    exact .pure rfl

/-- `Notes.get` leaves the store as it is. -/
theorem get_keeps (s : Store) (settings : Settings) (segment : String) (r : Request) :
    AllOrNothing s (get settings segment r) s fun _ s' => s' = s := by
  refine orRefuse_bind fun owner _ => pathText_bind fun raw _ => orRefuse_bind fun id _ => ?_
  refine .bind (.mapError _ (.of_alike (.findOne rfl))) ?_
  rintro found _ rfl
  cases found with
  | none => exact .halt _
  | some note => exact .pure rfl

/-- `Notes.create` adds the note of the draft, which is an `Effect`, or leaves the store as it
is. -/
theorem create_effect (hmethod : r.method = "POST") (limit : Nat) :
    AllOrNothing s (create settings occasion limit r) s (Effect settings occasion r s) := by
  refine orRefuse_bind fun owner howner => orRefuse_bind fun draft _ => orRefuse_bind fun _ _ => ?_
  refine .bind (.mapError _ (.insert (draft.note occasion.noteId owner occasion.now))) ?_
  rintro note s' ⟨rfl, hnew, hnotes⟩
  exact .pure (.added hmethod rfl howner rfl rfl hnew hnotes)

section
variable {segment : String} (hs : s.DistinctIds)
  (hpath : Resource.ofPath? r.path = some (.note segment))
include hs hpath

/-- `Notes.update` patches the note that the path names, which is an `Effect`, or leaves the store
as it is. -/
theorem update_effect (hmethod : r.method = "PATCH") (limit : Nat) :
    AllOrNothing s (update settings occasion limit segment r) s
      (Effect settings occasion r s) := by
  refine orRefuse_bind fun owner howner => pathText_bind fun raw hraw => orRefuse_bind fun id hid =>
    orRefuse_bind fun patch _ => orRefuse_bind fun _ _ => ?_
  by_cases hempty : patch.isEmpty = true
  · rw [if_pos hempty]
    exact .halt _
  · rw [if_neg hempty]
    refine .bind (.mapError _ (.update owner id hs patch occasion.now)) ?_
    rintro found s' (⟨rfl, rfl⟩ | ⟨front, n, back, hcut, rfl, rfl, rfl, hnotes⟩)
    · exact .halt _
    · exact .pure (.patched hmethod rfl howner (namedNote?_eq hpath hraw hid) rfl rfl hcut hnotes)

/-- `Notes.delete` removes the note that the path names, which is an `Effect`, or leaves the store
as it is. -/
theorem delete_effect (hmethod : r.method = "DELETE") :
    AllOrNothing s (delete settings segment r) s (Effect settings occasion r s) := by
  refine orRefuse_bind fun owner howner => pathText_bind fun raw hraw =>
    orRefuse_bind fun id hid => ?_
  refine .bind (.mapError _ (.delete owner id hs)) ?_
  rintro found s' (⟨rfl, rfl⟩ | ⟨front, n, back, hcut, rfl, rfl, rfl, hnotes⟩)
  · exact .halt _
  · exact .pure (.removed hmethod rfl howner (namedNote?_eq hpath hraw hid) hcut hnotes)

end

end Notes

/-- `Health.ready` leaves the store as it is. -/
theorem Health.ready_keeps (s : Store) (settings : Settings) :
    AllOrNothing s (ready (ε := ε) settings) s fun _ s' => s' = s := by
  intro c hc
  rcases AllOrNothing.of_alike (.count rfl) c hc with
    ⟨n, c', hcount, hstore⟩ | ⟨halt, c', hcount, hstore⟩
  · exact .inl ⟨_, c', by rw [ready, hcount], hstore⟩
  · rcases halt with e | w | _
    · exact .inl ⟨_, c', by rw [ready, hcount], hstore⟩
    · exact .inr ⟨_, c', by rw [ready, hcount], hstore⟩
    · exact .inr ⟨_, c', by rw [ready, hcount], hstore⟩

namespace Server

/-- Every `Server.endpoint` has an `Effect` on a store with distinct identifiers, or halts and
leaves it as it was. -/
theorem endpoint_effect (hs : s.DistinctIds) (settings : Settings) (occasion : Occasion)
    {resource : Resource} (hpath : Resource.ofPath? r.path = some resource) (limit : Nat) :
    AllOrNothing s (endpoint settings occasion limit resource r) s
      (Effect settings occasion r s) := by
  have hread {work : Notes.Work Response} (hmethod : r.method = "GET" ∨ r.method = "HEAD")
      (h : AllOrNothing s work s fun _ s' => s' = s) :
      AllOrNothing s work s (Effect settings occasion r s) := by
    refine h.imp ?_
    rintro response _ rfl
    exact .nothing (.inr hmethod)
  refine endpoint_cases resource (P := fun work => AllOrNothing s work s _) (fun op hop => ?_)
    (fun hmethod => hread hmethod (.pure rfl))
    (fun hmethod => hread hmethod (Health.ready_keeps s settings))
    (.pure (.nothing (.inl (by decide))))
  rcases Resource.operation?_eq_some hop with
    ⟨rfl, hmethod, rfl⟩ | ⟨rfl, hmethod, rfl⟩
    | ⟨segment, rfl, ⟨hmethod, rfl⟩ | ⟨hmethod, rfl⟩ | ⟨hmethod, rfl⟩⟩
  · exact hread hmethod (Notes.list_keeps s settings r)
  · exact Notes.create_effect hmethod limit
  · exact hread hmethod (Notes.get_keeps s settings segment r)
  · exact Notes.update_effect hs hpath hmethod limit
  · exact Notes.delete_effect hs hpath hmethod

end Server

end NotePager
