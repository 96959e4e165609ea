import NotePager.Proofs.Settings.Merge
import NotePager.Settings.Load

/-!
# Settings by their keys

Each setting has a key in a section, and takes texts or numbers below a bound. A tree that has a
value for each of the keys makes settings exactly when all these values are of the right kind, and
then the settings have exactly these values (`Settings.ofValue?_eq_some_iff`).
-/

namespace NotePager

/-- What the values of a setting are. -/
inductive SettingKind where
  | text
  /-- Whole numbers from 0 up to, not including, `size`. -/
  | natural (size : Nat)
  deriving DecidableEq, Repr

/-- The value is of the kind. -/
def SettingKind.admits : SettingKind → SettingValue → Bool
  | text, .text _ => true
  | natural size, .integer n => decide (0 ≤ n ∧ n < size)
  | _, _ => false

/-- What may be set. -/
inductive SettingKey where
  | name
  | port
  | logLevel
  | timeoutSecs
  | environment
  | bodyLimitMb
  | requestIdHeader
  | queryTimeoutMs
  | ownerHeader
  deriving DecidableEq, Repr

namespace SettingKey

/-- The name of the section that the key is in. -/
def sectionName : SettingKey → String
  | name | port | logLevel | timeoutSecs | environment => "service"
  | bodyLimitMb | requestIdHeader => "middleware"
  | queryTimeoutMs => "listing"
  | ownerHeader => "auth"

/-- The key in its section. -/
def field : SettingKey → String
  | name => "name"
  | port => "port"
  | logLevel => "log_level"
  | timeoutSecs => "timeout_secs"
  | environment => "environment"
  | bodyLimitMb => "body_limit_mb"
  | requestIdHeader => "request_id_header"
  | queryTimeoutMs => "query_timeout_ms"
  | ownerHeader => "owner_header"

/-- The section and the key in it. -/
def path (key : SettingKey) : List String := [key.sectionName, key.field]

/-- What the values are. -/
def kind : SettingKey → SettingKind
  | name | logLevel | environment | requestIdHeader | ownerHeader => .text
  | port => .natural UInt16.size
  | timeoutSecs | bodyLimitMb | queryTimeoutMs => .natural UInt64.size

/-- The value is of the kind that the setting takes. -/
def Admits (key : SettingKey) (v : SettingValue) : Prop := key.kind.admits v = true

instance (key : SettingKey) (v : SettingValue) : Decidable (key.Admits v) :=
  inferInstanceAs (Decidable (key.kind.admits v = true))

/-- A statement on every `SettingKey`, key by key. -/
theorem forall_iff {P : SettingKey → Prop} :
    (∀ key, P key) ↔ (P name ∧ P port ∧ P logLevel ∧ P timeoutSecs ∧ P environment)
      ∧ (P bodyLimitMb ∧ P requestIdHeader) ∧ P queryTimeoutMs ∧ P ownerHeader := by
  constructor
  · exact fun h => ⟨⟨h _, h _, h _, h _, h _⟩, ⟨h _, h _⟩, h _, h _⟩
  · rintro ⟨⟨hname, hport, hlevel, htimeout, henvironment⟩, ⟨hlimit, hheader⟩, hquery, howner⟩ key
    cases key <;> assumption

instance {P : SettingKey → Prop} [DecidablePred P] : Decidable (∀ key, P key) :=
  decidable_of_iff _ forall_iff.symm

end SettingKey

/-- The value of a setting. -/
def Settings.value (s : Settings) : SettingKey → SettingValue
  | .name => .text s.service.name
  | .port => .integer s.service.port
  | .logLevel => .text s.service.logLevel
  | .timeoutSecs => .integer s.service.timeoutSecs
  | .environment => .text s.service.environment
  | .bodyLimitMb => .integer s.middleware.bodyLimitMb
  | .requestIdHeader => .text s.middleware.requestIdHeader
  | .queryTimeoutMs => .integer s.listing.queryTimeoutMs
  | .ownerHeader => .text s.auth.ownerHeader

/-- The value that a tree has for a setting. -/
def SettingValue.at? (key : SettingKey) (v : SettingValue) : Option SettingValue :=
  (v.get? key.sectionName).bind (get? key.field)

namespace SettingValue

variable {v w : SettingValue} {size n : Nat} {t : String}

theorem text?_eq_some_iff : v.text? = some t ↔ v = .text t := by
  cases v <;> simp [text?]

theorem natural?_eq_some_iff : v.natural? size = some n ↔ v = .integer n ∧ n < size := by
  cases v with
  | integer m =>
    simp only [natural?, Option.ite_none_right_eq_some, Option.some.injEq, integer.injEq]
    omega
  | _ => simp [natural?]

end SettingValue

section
variable {v w : SettingValue} {size : Nat}

theorem SettingKind.admits_text_iff : SettingKind.text.admits v = true ↔ ∃ t, v = .text t := by
  cases v <;> simp [admits]

theorem SettingKind.admits_natural_iff :
    (SettingKind.natural size).admits v = true ↔ ∃ n : Nat, v = .integer n ∧ n < size := by
  cases v with
  | integer m =>
    simp only [admits, decide_eq_true_iff, SettingValue.integer.injEq]
    exact ⟨fun h => ⟨m.toNat, by omega, by omega⟩, fun ⟨n, hn, hlt⟩ => by omega⟩
  | _ => simp [admits]

/-- `Alike` is equality where one of the values is of the kind of a setting. -/
theorem SettingKey.Admits.eq_of_alike {key : SettingKey} (hw : key.Admits w) (h : v.Alike w) :
    v = w := by
  rcases h with rfl | ⟨-, es, rfl⟩
  · rfl
  · cases key <;> cases hw

end

namespace Settings

/-- Values of the right kinds are those of some settings. -/
theorem exists_value {w : SettingKey → SettingValue} (h : ∀ key : SettingKey, key.Admits (w key)) :
    ∃ s : Settings, ∀ key, s.value key = w key := by
  obtain ⟨name, hname⟩ := SettingKind.admits_text_iff.1 (h .name)
  obtain ⟨port, hport, -⟩ := SettingKind.admits_natural_iff.1 (h .port)
  obtain ⟨logLevel, hlevel⟩ := SettingKind.admits_text_iff.1 (h .logLevel)
  obtain ⟨timeoutSecs, htimeout, -⟩ := SettingKind.admits_natural_iff.1 (h .timeoutSecs)
  obtain ⟨environment, henvironment⟩ := SettingKind.admits_text_iff.1 (h .environment)
  obtain ⟨bodyLimitMb, hlimit, -⟩ := SettingKind.admits_natural_iff.1 (h .bodyLimitMb)
  obtain ⟨requestIdHeader, hheader⟩ := SettingKind.admits_text_iff.1 (h .requestIdHeader)
  obtain ⟨queryTimeoutMs, hquery, -⟩ := SettingKind.admits_natural_iff.1 (h .queryTimeoutMs)
  obtain ⟨ownerHeader, howner⟩ := SettingKind.admits_text_iff.1 (h .ownerHeader)
  refine ⟨⟨⟨name, port, logLevel, timeoutSecs, environment⟩, ⟨bodyLimitMb, requestIdHeader⟩,
    ⟨queryTimeoutMs⟩, ⟨ownerHeader⟩⟩, SettingKey.forall_iff.2 ?_⟩
  exact ⟨⟨hname.symm, hport.symm, hlevel.symm, htimeout.symm, henvironment.symm⟩,
    ⟨hlimit.symm, hheader.symm⟩, hquery.symm, howner.symm⟩

/-! ## Sections -/

section
open SettingField

variable {entries : List (String × SettingValue)}

/-- `readAll` of the service section, with all its keys there. -/
theorem readAll_service {name port logLevel timeoutSecs environment : SettingValue}
    (hname : entries.lookup "name" = some name) (hport : entries.lookup "port" = some port)
    (hlevel : entries.lookup "log_level" = some logLevel)
    (htimeout : entries.lookup "timeout_secs" = some timeoutSecs)
    (henvironment : entries.lookup "environment" = some environment) {s : ServiceSettings} :
    readAll serviceFields {} (.table entries) = some s
      ↔ name.text? = some s.name ∧ port.natural? UInt16.size = some s.port
        ∧ logLevel.text? = some s.logLevel
        ∧ timeoutSecs.natural? UInt64.size = some s.timeoutSecs
        ∧ environment.text? = some s.environment := by
  simp only [readAll, serviceFields, List.foldlM_cons, List.foldlM_nil, SettingField.read,
    ofText, ofNatural, hname, hport, hlevel, htimeout, henvironment, Option.bind_eq_bind,
    Option.bind_map, Function.comp_apply, Option.bind_eq_some_iff]
  constructor
  · rintro ⟨_, hname, _, hport, _, hlevel, _, htimeout, _, henvironment, heq⟩
    cases heq
    exact ⟨hname, hport, hlevel, htimeout, henvironment⟩
  · rintro ⟨hname, hport, hlevel, htimeout, henvironment⟩
    exact ⟨_, hname, _, hport, _, hlevel, _, htimeout, _, henvironment, rfl⟩

/-- `readAll` of the middleware section, with both its keys there. -/
theorem readAll_middleware {bodyLimitMb requestIdHeader : SettingValue}
    (hlimit : entries.lookup "body_limit_mb" = some bodyLimitMb)
    (hheader : entries.lookup "request_id_header" = some requestIdHeader)
    {s : MiddlewareSettings} :
    readAll middlewareFields {} (.table entries) = some s
      ↔ bodyLimitMb.natural? UInt64.size = some s.bodyLimitMb
        ∧ requestIdHeader.text? = some s.requestIdHeader := by
  simp only [readAll, middlewareFields, List.foldlM_cons, List.foldlM_nil, SettingField.read,
    ofText, ofNatural, hlimit, hheader, Option.bind_eq_bind, Option.bind_map, Function.comp_apply,
    Option.bind_eq_some_iff]
  constructor
  · rintro ⟨_, hlimit, _, hheader, heq⟩
    cases heq
    exact ⟨hlimit, hheader⟩
  · rintro ⟨hlimit, hheader⟩
    exact ⟨_, hlimit, _, hheader, rfl⟩

/-- `readAll` of the listing section, with its key there. -/
theorem readAll_listing {queryTimeoutMs : SettingValue}
    (hquery : entries.lookup "query_timeout_ms" = some queryTimeoutMs) {s : ListingSettings} :
    readAll listingFields {} (.table entries) = some s
      ↔ queryTimeoutMs.natural? UInt64.size = some s.queryTimeoutMs := by
  simp only [readAll, listingFields, List.foldlM_cons, List.foldlM_nil, SettingField.read,
    ofNatural, hquery, Option.bind_eq_bind, Option.bind_map, Function.comp_apply,
    Option.bind_eq_some_iff]
  constructor
  · rintro ⟨_, hquery, heq⟩
    cases heq
    exact hquery
  · exact fun hquery => ⟨_, hquery, rfl⟩

/-- `readAll` of the auth section, with its key there. -/
theorem readAll_auth {ownerHeader : SettingValue}
    (howner : entries.lookup "owner_header" = some ownerHeader) {s : AuthSettings} :
    readAll authFields {} (.table entries) = some s
      ↔ ownerHeader.text? = some s.ownerHeader := by
  simp only [readAll, authFields, List.foldlM_cons, List.foldlM_nil, SettingField.read,
    ofText, howner, Option.bind_eq_bind, Option.bind_map, Function.comp_apply,
    Option.bind_eq_some_iff]
  constructor
  · rintro ⟨_, howner, heq⟩
    cases heq
    exact howner
  · exact fun howner => ⟨_, howner, rfl⟩

/-- `readAll` of all sections, with all of them there. -/
theorem readAll_sections {service middleware listing auth : SettingValue}
    (hservice : entries.lookup "service" = some service)
    (hmiddleware : entries.lookup "middleware" = some middleware)
    (hlisting : entries.lookup "listing" = some listing)
    (hauth : entries.lookup "auth" = some auth) {s : Settings} :
    readAll sections {} (.table entries) = some s
      ↔ readAll serviceFields {} service = some s.service
        ∧ readAll middlewareFields {} middleware = some s.middleware
        ∧ readAll listingFields {} listing = some s.listing
        ∧ readAll authFields {} auth = some s.auth := by
  rw [readAll]
  simp only [sections, List.foldlM_cons, List.foldlM_nil, SettingField.read, ofSection, hservice,
    hmiddleware, hlisting, hauth, Option.bind_eq_bind, Option.bind_map, Function.comp_apply,
    Option.bind_eq_some_iff]
  constructor
  · rintro ⟨_, hservice, _, hmiddleware, _, hlisting, _, hauth, heq⟩
    cases heq
    exact ⟨hservice, hmiddleware, hlisting, hauth⟩
  · rintro ⟨hservice, hmiddleware, hlisting, hauth⟩
    exact ⟨_, hservice, _, hmiddleware, _, hlisting, _, hauth, rfl⟩

end

/-- `text?` as `Admits`, for a setting of kind `text`. -/
theorem text?_iff {key : SettingKey} (hkind : key.kind = .text) {w : SettingValue} {t : String} :
    w.text? = some t ↔ key.Admits (.text t) ∧ some w = some (.text t) := by
  have hadmits : key.Admits (.text t) := by rw [SettingKey.Admits, hkind]; rfl
  rw [SettingValue.text?_eq_some_iff, Option.some.injEq, and_iff_right hadmits]

/-- `natural?` as `Admits`, for a setting of kind `natural`. -/
theorem natural?_iff {key : SettingKey} {size : Nat} (hkind : key.kind = .natural size)
    {w : SettingValue} {n : Nat} :
    w.natural? size = some n ↔ key.Admits (.integer n) ∧ some w = some (.integer n) := by
  have hadmits : key.Admits (.integer n) ↔ n < size := by
    rw [SettingKey.Admits, hkind, SettingKind.admits, decide_eq_true_iff]
    omega
  rw [SettingValue.natural?_eq_some_iff, Option.some.injEq, hadmits, and_comm]

/-- `ofValue?` of a tree with a value for every setting succeeds exactly when all values are of the
right kinds, with the settings that have these values. -/
theorem ofValue?_eq_some_iff {v : SettingValue} (h : ∀ key, (v.at? key).isSome) {s : Settings} :
    ofValue? v = some s
      ↔ ∀ key : SettingKey, key.Admits (s.value key) ∧ v.at? key = some (s.value key) := by
  choose w hw using fun key => Option.isSome_iff_exists.1 (h key)
  obtain ⟨top, rfl⟩ : ∃ top, v = .table top := by
    cases v with
    | table top => exact ⟨top, rfl⟩
    | _ => cases hw .name
  have hsection (key : SettingKey) : ∃ es, top.lookup key.sectionName = some (.table es)
      ∧ ∀ key', key'.sectionName = key.sectionName → es.lookup key'.field = some (w key') := by
    obtain ⟨child, hchild, hfield⟩ := Option.bind_eq_some_iff.1 (hw key)
    obtain ⟨es, rfl⟩ : ∃ es, child = .table es := by
      cases child with
      | table es => exact ⟨es, rfl⟩
      | _ => cases hfield
    refine ⟨es, hchild, fun key' hsame => ?_⟩
    obtain ⟨child', hchild', hfield'⟩ := Option.bind_eq_some_iff.1 (hw key')
    rw [hsame] at hchild'
    cases hchild.symm.trans hchild'
    exact hfield'
  obtain ⟨service, hservice, hofService⟩ := hsection .name
  obtain ⟨middleware, hmiddleware, hofMiddleware⟩ := hsection .bodyLimitMb
  obtain ⟨listing, hlisting, hofListing⟩ := hsection .queryTimeoutMs
  obtain ⟨auth, hauth, hofAuth⟩ := hsection .ownerHeader
  rw [ofValue?, readAll_sections hservice hmiddleware hlisting hauth,
    readAll_service (hofService .name rfl) (hofService .port rfl) (hofService .logLevel rfl)
      (hofService .timeoutSecs rfl) (hofService .environment rfl),
    readAll_middleware (hofMiddleware .bodyLimitMb rfl) (hofMiddleware .requestIdHeader rfl),
    readAll_listing (hofListing .queryTimeoutMs rfl), readAll_auth (hofAuth .ownerHeader rfl),
    SettingKey.forall_iff]
  simp only [hw]
  exact and_congr
    (and_congr (text?_iff rfl) (and_congr (natural?_iff rfl) (and_congr (text?_iff rfl)
      (and_congr (natural?_iff rfl) (text?_iff rfl)))))
    (and_congr (and_congr (natural?_iff rfl) (text?_iff rfl))
      (and_congr (natural?_iff rfl) (text?_iff rfl)))

end Settings

end NotePager
