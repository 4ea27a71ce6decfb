import DeployPlan.BuildFile
import DeployPlan.Snapshot

/-!
# Detecting what a source needs

A build file in a source says how to build it. Without one, `Detector`s are tried in order: the
first one that finds one of its marker files names the language of the source and the image that
builds it.
-/

namespace DeployPlan

def buildFileName : String := "Dockerfile"

/-- The files that give a language away, and the image that builds sources in it. -/
structure Detector where
  language : String
  markers : List String
  builderImage : String
  deriving DecidableEq, Repr, Inhabited

/-- What was found out about a source. -/
inductive Detection
  /-- It brings its own build file. -/
  | buildFile (file : BuildFile)
  /-- It is written in a language and built with an image. -/
  | builderImage (language image : String)
  deriving DecidableEq

namespace Detector

/-- The languages that are known, in the order in which they are tried. -/
def standard : List Detector := [
  ⟨"ruby", ["Gemfile", "Rakefile", "config.ru"], "openshift/ruby-20-centos"⟩,
  ⟨"jee", ["pom.xml"], "openshift/wildfly-8-centos"⟩,
  ⟨"nodejs", ["app.json", "package.json"], "openshift/nodejs-010-centos"⟩,
  ⟨"python", ["requirements.txt", "setup.py"], "openshift/python-33-centos"⟩]

/-- The detectors with another image for the first one of a language. -/
def setBuilder (language image : String) : List Detector → Option (List Detector)
  | [] => none
  | d :: rest =>
    if d.language = language then some ({ d with builderImage := image } :: rest)
    else (setBuilder language image rest).map (d :: ·)

/-- The detectors with another image for a language, which has to be known. -/
def override (ds : List Detector) (entry : String × String) : Except Error (List Detector) := do
  let _ ← ImageName.parse entry.2
  match setBuilder entry.1 entry.2 ds with
  | some ds => return ds
  | none =>
    .error (.validation "builders" ("no detector for language " ++ Text.quoted entry.1))

/-- The detectors with other images for some languages. -/
def overrideAll (ds : List Detector) (builders : StringMap String) :
    Except Error (List Detector) :=
  builders.entries.foldlM override ds

variable {m : Type → Type} [Monad m]

/-- Whether one of the files is there; they are looked for one by one, up to the first success. -/
def anyExists (s : Snapshot m) : List String → m Bool
  | [] => return false
  | marker :: rest => do
    if ← s.exists? marker then return true else anyExists s rest

/-- The first detector that finds one of its files. -/
def firstMatch (s : Snapshot m) : List Detector → m (Option Detector)
  | [] => return none
  | d :: rest => do
    if ← anyExists s d.markers then return some d else firstMatch s rest

end Detector

/-- Finds out what a source needs; the build file comes before all detectors. -/
def detect {m : Type → Type} [Monad m] (ds : List Detector) (s : Snapshot m) :
    ExceptT Error m (Option Detection) := do
  match ← s.read buildFileName with
  | some content =>
    let file ← BuildFile.parse content
    return some (.buildFile file)
  | none =>
    let matched ← ExceptT.lift (Detector.firstMatch s ds)
    return matched.map fun d => .builderImage d.language d.builderImage

end DeployPlan
