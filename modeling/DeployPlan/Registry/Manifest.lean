import DeployPlan.Encoding.Settings
import DeployPlan.Json.Shape

/-!
# Documents of a registry

A manifest leads to the settings of an image, or lists one manifest for each platform that the image
is made for. `PlatformEntry.choose` picks the platform. For each document of a registry its shape
stands beside the function that reads it.
-/

namespace DeployPlan

/-- The platform that an image is made for. -/
structure Platform where
  architecture : String
  os : String
  deriving DecidableEq, Repr, Inhabited

/-- The manifest of an image for one platform. -/
structure PlatformEntry where
  digest : String
  platform : Option Platform := none
  deriving DecidableEq, Repr, Inhabited

/-- The document by which a registry describes an image. -/
structure Manifest where
  /-- The digest of the document that holds the settings. -/
  config : Option String := none
  /-- The manifests for the platforms, if there are several. -/
  entries : Option (List PlatformEntry) := none
  deriving DecidableEq, Repr, Inhabited

namespace PlatformEntry

/-- The entry is for the platform that the program builds for. -/
def isPreferred (e : PlatformEntry) : Bool :=
  e.platform.any fun p => p.os = "linux" && p.architecture = "amd64"

/-- The digest of the entry for the preferred platform, else of the first entry. -/
def choose (es : List PlatformEntry) : Option String :=
  ((es.find? isPreferred).or es.head?).map (·.digest)

end PlatformEntry

namespace Encoding

open Json.Shape (field)

def manifestShape : Json.Shape :=
  .record [
    field "config" (.record [("digest", .required, .text)]),
    field "manifests" (.list (.record [
      ("digest", .required, .text),
      field "platform" (.record [("architecture", .required, .text), ("os", .required, .text)])]))]

def platform? (j : Json) : Option Platform := do
  let r ← Json.Record.of? ["architecture", "os"] j
  return {
    architecture := ← r.required "architecture" Json.str?
    os := ← r.required "os" Json.str? }

def platformEntry? (j : Json) : Option PlatformEntry := do
  let r ← Json.Record.of? ["digest", "platform"] j
  return {
    digest := ← r.required "digest" Json.str?
    platform := ← r.optional "platform" platform? }

/-- The digest in a record that has just this field. -/
def digest? (j : Json) : Option String := do
  let r ← Json.Record.of? ["digest"] j
  r.required "digest" Json.str?

def manifest? (j : Json) : Option Manifest := do
  let r ← Json.Record.of? ["config", "manifests"] j
  return {
    config := ← r.optional "config" digest?
    entries := ← r.optional "manifests" (Json.list? platformEntry?) }

/-- The shape of the document that holds the settings of an image; a registry may leave the settings
out. -/
def imageSettingsShape : Json.Shape :=
  .record [("config", .defaulted, .record [
    field "ExposedPorts" (.map .any), field "Env" (.list .text), field "Labels" (.map .text)])]

def imageSettings? (j : Json) : Option ContainerSettings := do
  let r ← Json.Record.of? ["config"] j
  r.orElse "config" {} containerSettings?

def tokenShape : Json.Shape :=
  .record [field "token" .text, field "access_token" .text]

def token? (j : Json) : Option (Option String) := do
  let r ← Json.Record.of? ["token", "access_token"] j
  let token ← r.optional "token" Json.str?
  let access ← r.optional "access_token" Json.str?
  return token.or access

end Encoding

end DeployPlan
