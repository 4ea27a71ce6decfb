/-!
# What can go wrong

`FileError` is what the file system answers when it refuses; `Error` is why a plan cannot be made.
`Error.message` is the wording, `Error.isSkippable` tells the errors after which another image
source may still be asked.
-/

namespace DeployPlan

/-- Why the file system refused. -/
inductive FileError
  | notFound
  | exists
  | notDirectory
  | isDirectory
  | nameTooLong
  | notEmpty
  | tooManyLinks
  | invalidUtf8
  | nulByte
  /-- Any other reason, in the system's words. -/
  | other (message : String)
  deriving DecidableEq, Repr, Inhabited

/-- The wording of a file system error, with the number under which the system knows it. -/
def FileError.message : FileError → String
  | .notFound => "No such file or directory (os error 2)"
  | .exists => "File exists (os error 17)"
  | .notDirectory => "Not a directory (os error 20)"
  | .isDirectory => "Is a directory (os error 21)"
  | .nameTooLong => "File name too long (os error 36)"
  | .notEmpty => "Directory not empty (os error 39)"
  | .tooManyLinks => "Too many levels of symbolic links (os error 40)"
  | .invalidUtf8 => "stream did not contain valid UTF-8"
  | .nulByte => "file name contained an unexpected NUL byte"
  | .other message => message

/-- Why a plan cannot be made. -/
inductive Error
  /-- The source cannot be found or read. -/
  | sourceDetection (message : String)
  /-- Nothing tells how to build this source. -/
  | noStrategyMatch (source : String)
  /-- An image source could not be asked. -/
  | resolverTransient (message : String)
  /-- An image source was asked and knows no such image. -/
  | resolverNoMatch (image : String)
  /-- No image source knows the image. -/
  | resolution (image : String)
  /-- A strategy and its base do not fit together. -/
  | pipelineConsistency (message : String)
  /-- A value breaks the rules of its field. -/
  | validation (field message : String)
  | io (cause : FileError)
  /-- The objects cannot be written. -/
  | encode (message : String)
  deriving DecidableEq, Repr, Inhabited

/-- The wording of an error. -/
def Error.message : Error → String
  | .sourceDetection m => "source detection failed: " ++ m
  | .noStrategyMatch s => "no build strategy matched source " ++ s
  | .resolverTransient m => "resolver backend unavailable: " ++ m
  | .resolverNoMatch i => "no match for image " ++ i
  | .resolution i => "unable to resolve image " ++ i
  | .pipelineConsistency m => "inconsistent pipeline: " ++ m
  | .validation f m => "invalid " ++ f ++ ": " ++ m
  | .io e => "IO error: " ++ e.message
  | .encode m => "encoding failed: " ++ m

/-- Whether another image source may still know an image after this error. -/
def Error.isSkippable : Error → Bool
  | .resolverTransient _ | .resolverNoMatch _ | .resolution _ => true
  | _ => false

end DeployPlan
