import NotePager.Settings.Basic
import NotePager.Settings.Environment
import NotePager.Settings.Toml.Document

/-!
# Loading settings

Settings are merged from layers: the defaults, files from the least to the most important, and the
environment. Only what stands after the merge has to be of the right kind, so a value that a later
layer replaces does no harm. Names that are not known are passed over.
-/

namespace NotePager

/-- Why settings cannot be loaded. -/
inductive SettingsError where
  /-- A file is no document. -/
  | unreadable
  /-- A value is missing or of the wrong kind. -/
  | mistyped
  deriving DecidableEq, Repr

namespace SettingValue

/-- The text that the value is. -/
def text? : SettingValue → Option String
  | text s => some s
  | _ => none

/-- The number below `size` that the value is. -/
def natural? (size : Nat) : SettingValue → Option Nat
  | integer n => if 0 ≤ n ∧ n < size then some n.toNat else none
  | _ => none

end SettingValue

/-- A field of a section: its key, whether it has to be there, and how its value is put in. -/
structure SettingField (σ : Type) where
  key : String
  required : Bool := false
  set : SettingValue → σ → Option σ

namespace SettingField

/-- A text. -/
def ofText (key : String) (set : String → σ → σ) : SettingField σ where
  key := key
  set v s := v.text?.map fun t => set t s

/-- A number below `size`. -/
def ofNatural (key : String) (size : Nat) (set : Nat → σ → σ) : SettingField σ where
  key := key
  set v s := (v.natural? size).map fun n => set n s

/-- Put in the value of a field that is there, or leave the default. -/
def read (f : SettingField σ) (v : Option SettingValue) (s : σ) : Option σ :=
  match v with
  | some v => f.set v s
  | none => if f.required then none else some s

/-- A section: a table with entries for its fields, or a list of their values in order. -/
def readAll (fields : List (SettingField σ)) (s : σ) : SettingValue → Option σ
  | .table entries => fields.foldlM (fun s f => f.read (entries.lookup f.key) s) s
  | .list items => fields.zipIdx.foldlM (fun s (f, i) => f.read items[i]? s) s
  | _ => none

/-- A section within another one. -/
def ofSection (key : String) (fields : List (SettingField τ)) (start : τ) (set : τ → σ → σ) :
    SettingField σ where
  key := key
  set v s := (readAll fields start v).map fun t => set t s

end SettingField

namespace Settings

/-- The fields of the section on the service. -/
def serviceFields : List (SettingField ServiceSettings) := [
  { SettingField.ofText "name" (fun v s => { s with name := v }) with required := true },
  .ofNatural "port" UInt16.size fun v s => { s with port := v },
  .ofText "log_level" fun v s => { s with logLevel := v },
  .ofNatural "timeout_secs" UInt64.size fun v s => { s with timeoutSecs := v },
  .ofText "environment" fun v s => { s with environment := v }]

/-- The fields of the section on what is done to every request. -/
def middlewareFields : List (SettingField MiddlewareSettings) := [
  .ofNatural "body_limit_mb" UInt64.size fun v s => { s with bodyLimitMb := v },
  .ofText "request_id_header" fun v s => { s with requestIdHeader := v }]

/-- The fields of the section on listings. -/
def listingFields : List (SettingField ListingSettings) := [
  .ofNatural "query_timeout_ms" UInt64.size fun v s => { s with queryTimeoutMs := v }]

/-- The fields of the section on callers. -/
def authFields : List (SettingField AuthSettings) := [
  .ofText "owner_header" fun v s => { s with ownerHeader := v }]

/-- The sections. -/
def sections : List (SettingField Settings) := [
  .ofSection "service" serviceFields {} fun v s => { s with service := v },
  .ofSection "middleware" middlewareFields {} fun v s => { s with middleware := v },
  .ofSection "listing" listingFields {} fun v s => { s with listing := v },
  .ofSection "auth" authFields {} fun v s => { s with auth := v }]

/-- The settings as a layer. -/
def layer (s : Settings) : SettingValue := .table [
  ("service", .table [
    ("name", .text s.service.name),
    ("port", .integer s.service.port),
    ("log_level", .text s.service.logLevel),
    ("timeout_secs", .integer s.service.timeoutSecs),
    ("environment", .text s.service.environment)]),
  ("middleware", .table [
    ("body_limit_mb", .integer s.middleware.bodyLimitMb),
    ("request_id_header", .text s.middleware.requestIdHeader)]),
  ("listing", .table [("query_timeout_ms", .integer s.listing.queryTimeoutMs)]),
  ("auth", .table [("owner_header", .text s.auth.ownerHeader)])]

/-- The settings that a merged tree gives. -/
def ofValue? (v : SettingValue) : Option Settings := SettingField.readAll sections {} v

/-- What stands after the merge of the defaults and some layers, the least important first. -/
def mergeLayers (layers : List SettingValue) : SettingValue :=
  layers.foldl SettingValue.merge (layer {})

/-- Load settings from the texts of files, the least important first, and from the variables of the
environment. -/
def load (files : List String) (vars : List (String × String)) :
    Except SettingsError Settings :=
  match files.mapM Toml.parse? with
  | none => .error .unreadable
  | some layers =>
    match ofValue? (mergeLayers (layers ++ [Environment.settings vars])) with
    | none => .error .mistyped
    | some settings => .ok settings

end Settings

/-- The texts of the files that may give settings, as far as the files are there. -/
structure SettingsFiles where
  workingDirectory : Option String := none
  /-- The file of the user, under the configuration directories of the desktop. -/
  user : Option String := none
  system : Option String := none
  deriving DecidableEq, Repr

/-- The files that are there, the most important first. -/
def SettingsFiles.found (files : SettingsFiles) : List String :=
  [files.workingDirectory, files.user, files.system].filterMap id

namespace Settings

/-- Load settings from the files that are found and from the environment. -/
def loadFound (files : SettingsFiles) (vars : List (String × String)) :
    Except SettingsError Settings :=
  load files.found.reverse vars

/-- Load settings from one file, which need not be there, and from the environment. -/
def loadFrom (file : Option String) (vars : List (String × String)) :
    Except SettingsError Settings :=
  load file.toList vars

end Settings

end NotePager
