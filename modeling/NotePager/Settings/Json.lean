import NotePager.Json.Reader
import NotePager.Settings.Basic

/-!
# Settings as JSON

All settings as one JSON object. When settings are read, what is left out has its default, except
the section on the service and the name in it, which have to be there.
-/

namespace NotePager

open Json

/-- All settings. -/
def Settings.json (s : Settings) : Json := .object [
  ("service", .object [
    ("name", .text s.service.name),
    ("port", .number s.service.port),
    ("log_level", .text s.service.logLevel),
    ("timeout_secs", .number s.service.timeoutSecs),
    ("environment", .text s.service.environment)]),
  ("middleware", .object [
    ("body_limit_mb", .number s.middleware.bodyLimitMb),
    ("request_id_header", .text s.middleware.requestIdHeader)]),
  ("listing", .object [("query_timeout_ms", .number s.listing.queryTimeoutMs)]),
  ("auth", .object [("owner_header", .text s.auth.ownerHeader)])]

/-- The section on the service, and whether the name was there. -/
def ServiceSettings.reader : Reader ServiceSettings := Reader.record [
  .into "name" Reader.string fun v (s : ServiceSettings × Bool) => ({ s.1 with name := v }, true),
  .into "port" (Reader.natural UInt16.size) fun v s => ({ s.1 with port := v }, s.2),
  .into "log_level" Reader.string fun v s => ({ s.1 with logLevel := v }, s.2),
  .into "timeout_secs" (Reader.natural UInt64.size) fun v s => ({ s.1 with timeoutSecs := v }, s.2),
  .into "environment" Reader.string fun v s => ({ s.1 with environment := v }, s.2)]
  ({}, false) fun (s, named) => if named then some s else none

/-- The section on what is done to every request. -/
def MiddlewareSettings.reader : Reader MiddlewareSettings := Reader.record [
  .into "body_limit_mb" (Reader.natural UInt64.size) fun v s => { s with bodyLimitMb := v },
  .into "request_id_header" Reader.string fun v s => { s with requestIdHeader := v }]
  {} some

/-- The section on listings. -/
def ListingSettings.reader : Reader ListingSettings := Reader.record [
  .into "query_timeout_ms" (Reader.natural UInt64.size) fun v s => { s with queryTimeoutMs := v }]
  {} some

/-- The section on callers. -/
def AuthSettings.reader : Reader AuthSettings := Reader.record [
  .into "owner_header" Reader.string fun v s => { s with ownerHeader := v }]
  {} some

/-- All settings, and whether the section on the service was there. -/
def Settings.reader : Reader Settings := Reader.record [
  .into "service" ServiceSettings.reader fun v (s : Settings × Bool) =>
    ({ s.1 with service := v }, true),
  .into "middleware" MiddlewareSettings.reader fun v s => ({ s.1 with middleware := v }, s.2),
  .into "listing" ListingSettings.reader fun v s => ({ s.1 with listing := v }, s.2),
  .into "auth" AuthSettings.reader fun v s => ({ s.1 with auth := v }, s.2)]
  ({}, false) fun (s, given) => if given then some s else none

end NotePager
