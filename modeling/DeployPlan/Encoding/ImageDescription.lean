import DeployPlan.Encoding.Settings
import DeployPlan.Json.Shape

/-!
# The daemon's description of an image

The daemon of the local runtime describes an image in one record. All of its fields have to be what
they are meant to be, but only the id and the settings of the image's containers count.
-/

namespace DeployPlan.Encoding

open Json Json.Shape

def healthCheckShape : Shape :=
  .record [
    field "Test" (.list .text), field "Interval" .integer, field "Timeout" .integer,
    field "Retries" .integer, field "StartPeriod" .integer, field "StartInterval" .integer]

def containerShape : Shape :=
  .record [
    field "Hostname" .text, field "Domainname" .text, field "User" .text,
    field "AttachStdin" .bool, field "AttachStdout" .bool, field "AttachStderr" .bool,
    field "ExposedPorts" (.map .empty), field "Tty" .bool, field "OpenStdin" .bool,
    field "StdinOnce" .bool, field "Env" (.list .text), field "Cmd" (.list .text),
    field "Healthcheck" healthCheckShape, field "ArgsEscaped" .bool, field "Image" .text,
    field "Volumes" (.map .empty), field "WorkingDir" .text, field "Entrypoint" (.list .text),
    field "NetworkDisabled" .bool, field "MacAddress" .text, field "OnBuild" (.list .text),
    field "Labels" (.map .text), field "StopSignal" .text, field "StopTimeout" .integer,
    field "Shell" (.list .text)]

/-- Where the files of an image lie. -/
def storageShape : Shape :=
  .record [("Name", .required, .text), ("Data", .required, .orNull (.map .text))]

def layersShape : Shape :=
  .record [("Type", .required, .text), field "Layers" (.list .text)]

def imageDescriptionShape : Shape :=
  .record [
    field "Id" .text, field "RepoTags" (.list .text), field "RepoDigests" (.list .text),
    field "Parent" .text, field "Comment" .text, field "Created" .text,
    field "DockerVersion" .text, field "Author" .text, field "Config" containerShape,
    field "Architecture" .text, field "Variant" .text, field "Os" .text, field "OsVersion" .text,
    field "Size" .integer, field "VirtualSize" .integer, field "GraphDriver" storageShape,
    field "RootFS" layersShape, field "Metadata" (.record [field "LastTagTime" .text])]

def imageDescription? (j : Json) : Option (Option String × ContainerSettings) := do
  let r ← Record.of? ["Id", "Config"] j
  let id ← r.optional "Id" str?
  let settings ← r.optional "Config" containerSettings?
  return (id, settings.getD {})

def daemonErrorShape : Shape :=
  .record [("message", .required, .text)]

end DeployPlan.Encoding
