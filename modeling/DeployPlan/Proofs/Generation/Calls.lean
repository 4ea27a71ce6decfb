import DeployPlan.Generation
import DeployPlan.Proofs.Resolver.FirstAnswer

/-!
# The calls of a run

`Call` is what a run asks of others, with the answer where it matters. `Collaborators.noted` makes
collaborators that note each call; the lemmas about them say which call each of their operations
is. A snapshot of a local directory reads files, a fetched one is asked itself: `Snapshot.Mirrors`
says of both how their operations are noted.
-/

namespace DeployPlan

variable {σ α β : Type}

/-- A step on the file system that reads no file and looks for none. -/
inductive FileStep
  | canonicalize
  | isDirectory
  | openDirectory
  | write
  | createDirectories
  | removeTree
  deriving DecidableEq, Repr

/-- What a run asks of others. -/
inductive Call
  | fileStep (step : FileStep) (path : String)
  | inspect (dir : String) (answer : Except Error (Option Checkout))
  /-- A source is fetched; the answer is a snapshot or a refusal. -/
  | fetch (source : Source) (refusal : Option Error)
  /-- A file of a source is read. -/
  | read (path : String) (answer : Except Error (Option String))
  /-- A file of a source is looked for. -/
  | probe (path : String) (there : Bool)
  /-- A fetched snapshot is given back. -/
  | release
  | resolve (image : String) (answer : Except Error Image)

/-- The kinds of calls. -/
inductive CallKind
  | fileStep
  | inspect
  | fetch
  | read
  | probe
  | release
  | resolve
  deriving DecidableEq, Repr

def errorOf? : Except Error α → Option Error
  | .ok _ => none
  | .error e => some e

theorem eq_error_of_errorOf? {r : Except Error α} {e : Error} (h : errorOf? r = some e) :
    r = .error e := by
  cases r with
  | ok a => cases h
  | error e' =>
    cases h
    rfl

namespace Call

/-- The error with which a call fails. A step on the file system has no error of its own: what it
answers is told in other words or passed over. -/
def failure? : Call → Option Error
  | .inspect _ answer => errorOf? answer
  | .fetch _ refusal => refusal
  | .read _ answer => errorOf? answer
  | .resolve _ answer => errorOf? answer
  | .fileStep _ _ | .probe _ _ | .release => none

def kind : Call → CallKind
  | .fileStep _ _ => .fileStep
  | .inspect _ _ => .inspect
  | .fetch _ _ => .fetch
  | .read _ _ => .read
  | .probe _ _ => .probe
  | .release => .release
  | .resolve _ _ => .resolve

/-- Steps on the file system, questions for a file, and releases do not fail. -/
theorem failure?_eq_none {call : Call}
    (h : call.kind = .fileStep ∨ call.kind = .probe ∨ call.kind = .release) :
    call.failure? = none := by
  cases call <;> first | rfl | simp [kind] at h

/-- What reading a file says about a source: a file that is not there is no failure. -/
def ofRead (path : String) : Except FileError String → Call
  | .ok text => .read path (.ok (some text))
  | .error .notFound => .read path (.ok none)
  | .error e => .read path (.error (.io e))

theorem kind_ofRead (path : String) (answer : Except FileError String) :
    (Call.ofRead path answer).kind = .read := by
  rcases answer with (_ | _) | _ <;> rfl

/-- What looking for a file says about a source: one that cannot be looked for is not there. -/
def ofProbe (path : String) : Except FileError Bool → Call
  | .ok there => .probe path there
  | .error _ => .probe path false

end Call

def callsOf (kind : CallKind) (calls : List Call) : List Call :=
  calls.filter fun call => call.kind = kind

theorem callsOf_append (kind : CallKind) (calls later : List Call) :
    callsOf kind (calls ++ later) = callsOf kind calls ++ callsOf kind later :=
  List.filter_append ..

theorem callsOf_eq_nil {kind : CallKind} {calls : List Call}
    (h : ∀ call ∈ calls, call.kind ≠ kind) : callsOf kind calls = [] := by
  refine List.filter_eq_nil_iff.mpr fun call hc => ?_
  rw [decide_eq_true_eq]
  exact h call hc

/-! ## Collaborators that note their calls -/

/-- The files, noting each operation. -/
def Files.noted (files : Files (StateM σ)) : Files (Recording Call σ) where
  canonicalize path := note (fun _ => .fileStep .canonicalize path) (files.canonicalize path)
  isDirectory path := note (fun _ => .fileStep .isDirectory path) (files.isDirectory path)
  exists? path := note (.ofProbe path) (files.exists? path)
  openDirectory path := note (fun _ => .fileStep .openDirectory path) (files.openDirectory path)
  read path := note (.ofRead path) (files.read path)
  write path text := note (fun _ => .fileStep .write path) (files.write path text)
  createDirectories path :=
    note (fun _ => .fileStep .createDirectories path) (files.createDirectories path)
  removeTree path := note (fun _ => .fileStep .removeTree path) (files.removeTree path)

/-- The inspector, noting each question with its answer. -/
def Inspector.noted (inspector : Inspector (StateM σ)) : Inspector (Recording Call σ) where
  inspect dir := ExceptT.mk (note (.inspect dir) (inspector.inspect dir).run)

/-- The snapshot, noting each operation. -/
def Snapshot.noted (snapshot : Snapshot (StateM σ)) : Snapshot (Recording Call σ) where
  exists? path := note (.probe path) (snapshot.exists? path)
  read path := ExceptT.mk (note (.read path) (snapshot.read path).run)
  release := note (fun _ => .release) snapshot.release

/-- The fetcher, noting each question, and each operation on what it fetches. -/
def Fetcher.noted (fetcher : Fetcher (StateM σ)) : Fetcher (Recording Call σ) where
  fetch source := ExceptT.mk do
    let answer ← note (fun answer => .fetch source (errorOf? answer)) (fetcher.fetch source).run
    return answer.map Snapshot.noted

/-- The collaborators, noting each call. -/
def Collaborators.noted (c : Collaborators (StateM σ)) : Collaborators (Recording Call σ) where
  files := c.files.noted
  inspector := c.inspector.noted
  fetcher := c.fetcher.noted
  resolver := c.resolver.noting .resolve
  detectors := c.detectors

/-- Reading a file is one call. -/
theorem Files.run_read_noted {files : Files (StateM σ)} {path : String} {s t : σ}
    {answer : Except FileError String} (h : (files.read path).run s = (answer, t))
    (log : List Call) :
    (files.noted.read path).run (s, log) = (answer, t, log ++ [Call.ofRead path answer]) := by
  show (((files.read path).run s).1, ((files.read path).run s).2,
    log ++ [Call.ofRead path ((files.read path).run s).1]) = _
  rw [h]

/-- A step on the file system is one call. -/
theorem fileStep_noted (step : FileStep) (path : String) (x : StateM σ α) (s : σ) :
    Notes id (note (fun _ => Call.fileStep step path) x) x s
      fun calls _ _ => calls = [.fileStep step path] :=
  .of_note _ _ _

theorem inspect_noted (inspector : Inspector (StateM σ)) (dir : String) (s : σ) :
    Records (inspector.noted.inspect dir) (inspector.inspect dir) s
      fun calls answer _ => calls = [.inspect dir answer] :=
  .of_note _ _ _

/-- A fetch is one call. What it yields is the snapshot that the plain fetch yields, noting its
operations. -/
theorem fetch_noted (fetcher : Fetcher (StateM σ)) (source : Source) (s : σ) :
    Notes (Except.map Snapshot.noted) (fetcher.noted.fetch source).run (fetcher.fetch source).run s
      fun calls answer _ => calls = [.fetch source (errorOf? answer)] :=
  ⟨_, fun _ => rfl, rfl⟩

/-! ## Snapshots -/

/-- How the operations of a snapshot are noted: as one call each, with the path that `place`
gives. -/
structure Snapshot.Mirrors (place : String → String) (noted : Snapshot (Recording Call σ))
    (plain : Snapshot (StateM σ)) : Prop where
  read : ∀ path s, Records (noted.read path) (plain.read path) s
    fun calls answer _ => calls = [.read (place path) answer]
  exists? : ∀ path s, Notes id (noted.exists? path) (plain.exists? path) s
    fun calls there _ => calls = [.probe (place path) there]

theorem Snapshot.noted_mirrors (snapshot : Snapshot (StateM σ)) :
    Mirrors id snapshot.noted snapshot where
  read _ _ := .of_note _ _ _
  exists? _ _ := .of_note _ _ _

/-- Reading a file for a snapshot is one call. -/
theorem Snapshot.readFile_noted (files : Files (StateM σ)) (path : String) (s : σ) :
    Records (readFile files.noted path) (readFile files path) s
      fun calls answer _ => calls = [.read path answer] := by
  refine Records.bindState (.of_note (Call.ofRead path) (files.read path) s) ?_
  rintro c ((_ | _) | text) t rfl <;> first
    | exact Records.pure _ rfl
    | exact Records.throw _ rfl

theorem Snapshot.ofDirectory_mirrors (files : Files (StateM σ)) (root : String) :
    Mirrors (Path.join root) (ofDirectory files.noted root) (ofDirectory files root) where
  read path s := readFile_noted files (Path.join root path) s
  exists? path s := by
    refine Notes.bind (.of_note (Call.ofProbe (Path.join root path)) (files.exists? _) s) ?_
    rintro c (_ | there) t rfl
    · exact Notes.pure id false rfl
    · exact Notes.pure id there rfl

end DeployPlan
