import DeployPlan.Proofs.Recording
import DeployPlan.Registry.Exchange

/-!
# The requests by which an image is fetched

A registry is asked for documents, each of which names the next one, and at most once for a token.
`Step` is a request with what it is made for and what comes of it, and `Allowed` says which requests
may follow which steps: nothing but the documents that are due, each with the token that is held by
then, a token where an answer wants one, and once more the document for which it was wanted.
`fetchImage_orderly` says that every fetch keeps to that, however the registry answers, and ends
after at most five requests.

A request is meant as it is handed to the client: what the client makes of its address is not part
of it.
-/

namespace DeployPlan

variable {σ : Type}

/-- A request, and what comes of it. -/
structure Exchange where
  request : HttpRequest
  answer : Except HttpFailure HttpResponse

/-- The client, noting each request with what comes of it. -/
def HttpClient.noted (http : HttpClient (StateM σ)) : HttpClient (Recording Exchange σ) where
  get r := note (Exchange.mk r) (http.get r)

namespace RegistryServer

/-- What a registry keeps of an image. -/
inductive Document
  /-- The manifest with this tag or digest. -/
  | manifest (reference : String)
  /-- The settings with this digest. -/
  | settings (digest : String)
  deriving DecidableEq, Repr

/-- What a request is made for. -/
inductive Purpose
  | document (d : Document)
  | token
  /-- A document that was refused without a token. -/
  | again (d : Document)
  deriving DecidableEq, Repr

/-- A request with what it is made for, and what comes of it. -/
structure Step extends Exchange where
  purpose : Purpose

/-- The document to which a manifest leads: the manifest for the chosen platform, or the
settings. -/
inductive Leads (manifest : Manifest) : Document → Prop
  | platform {entries : List PlatformEntry} {chosen : String}
      (he : manifest.entries = some entries) (hc : PlatformEntry.choose entries = some chosen) :
    Leads manifest (.manifest chosen)
  | settings {digest : String} (h : manifest.config = some digest) :
    Leads manifest (.settings digest)

/-- The kinds of documents that are understood in place of this one. -/
def Document.accepted? : Document → Option String
  | .manifest _ => some manifestKinds
  | .settings _ => none

variable (server : RegistryServer) (repository reference : String)

def documentUrl : Document → String
  | .manifest reference => server.manifestUrl repository reference
  | .settings digest => server.blobUrl repository digest

def documentRequest (token : Option String) (d : Document) : HttpRequest :=
  { url := server.documentUrl repository d, accept := d.accepted?, bearer := token }

/-- The token that an answer to a request for one hands out. -/
def granted? : Except HttpFailure HttpResponse → Option String
  | .error _ => none
  | .ok response =>
    if response.isSuccess then (response.decode Encoding.tokenShape Encoding.token?).toOption.join
    else none

/-- The token that was handed out in some steps. -/
def held (steps : List Step) : Option String :=
  steps.findSome? fun step => if step.purpose = .token then granted? step.answer else none

def documentStep (token : Option String) (d : Document)
    (answer : Except HttpFailure HttpResponse) : Step :=
  ⟨⟨server.documentRequest repository token d, answer⟩, .document d⟩

/-- The request for a token at an address, with what comes of it. It bears no token. -/
def tokenStep (address : Url) (answer : Except HttpFailure HttpResponse) : Step :=
  ⟨⟨{ url := address.toString }, answer⟩, .token⟩

/-- The repeated request for a document, with what comes of it. -/
def againStep (token : Option String) (d : Document)
    (answer : Except HttpFailure HttpResponse) : Step :=
  ⟨⟨server.documentRequest repository token d, answer⟩, .again d⟩

/-- The document to be read after some steps: first the manifest of the image, then what the
manifest in the last answer leads to. -/
inductive Due (before : List Step) : Document → Prop
  | first (h : before = []) : Due before (.manifest reference)
  | next {last : Step} {response : HttpResponse} {digest : Option String} {manifest : Manifest}
      {d : Document} (hl : before.getLast? = some last) (hr : last.answer = .ok response)
      (hm : server.readManifest response = .ok (some (digest, manifest))) (hd : Leads manifest d) :
    Due before d

/-- What may follow some steps. -/
inductive Allowed (before : List Step) : Step → Prop
  /-- A document that is due, with the token that is held. -/
  | document {d : Document} (due : server.Due reference before d)
      (answer : Except HttpFailure HttpResponse) :
    Allowed before (server.documentStep repository (held before) d answer)
  /-- A token, while none is held and the last answer wants one for a document. -/
  | token {refused : Step} {d : Document} {response : HttpResponse} {challenge : BearerChallenge}
      {address : Url} (hh : held before = none) (hl : before.getLast? = some refused)
      (hp : refused.purpose = .document d) (hr : refused.answer = .ok response)
      (hc : challenge? response = some challenge) (hu : tokenUrl challenge = .ok address)
      (answer : Except HttpFailure HttpResponse) :
    Allowed before (tokenStep address answer)
  /-- The document for which a token was wanted, right after it was handed out. -/
  | again {earlier : List Step} {refused asked : Step} {d : Document} {fresh : String}
      (hb : before = earlier ++ [refused, asked]) (hp : refused.purpose = .document d)
      (ht : asked.purpose = .token) (hg : granted? asked.answer = some fresh)
      (answer : Except HttpFailure HttpResponse) :
    Allowed before (server.againStep repository (held before) d answer)

/-- Each of some steps is allowed after those before it. -/
def InOrder (before : List Step) : List Step → Prop
  | [] => True
  | step :: rest =>
    server.Allowed repository reference before step ∧ InOrder (before ++ [step]) rest

def tokenSteps (steps : List Step) : List Step :=
  steps.filter (·.purpose = .token)

/-- What is certain of the steps by which an image is fetched. -/
structure Orderly (steps : List Step) : Prop where
  inOrder : server.InOrder repository reference [] steps
  length_le : steps.length ≤ 5
  length_tokenSteps_le : (tokenSteps steps).length ≤ 1

/-! ## Steps in order -/

variable {server repository reference}

theorem held_append (before steps : List Step) :
    held (before ++ steps) = (held before).or (held steps) :=
  List.findSome?_append

@[simp]
theorem held_document (token : Option String) (d : Document)
    (answer : Except HttpFailure HttpResponse) (rest : List Step) :
    held (server.documentStep repository token d answer :: rest) = held rest :=
  rfl

@[simp]
theorem held_token (address : Url) (answer : Except HttpFailure HttpResponse) (rest : List Step) :
    held (tokenStep address answer :: rest) = (granted? answer).or (held rest) := by
  cases h : granted? answer <;> simp [held, tokenStep, h]

@[simp]
theorem held_again (token : Option String) (d : Document)
    (answer : Except HttpFailure HttpResponse) (rest : List Step) :
    held (server.againStep repository token d answer :: rest) = held rest :=
  rfl

@[simp]
theorem held_nil : held [] = none :=
  rfl

theorem inOrder_append {before steps later : List Step} :
    server.InOrder repository reference before (steps ++ later) ↔
      server.InOrder repository reference before steps ∧
        server.InOrder repository reference (before ++ steps) later := by
  induction steps generalizing before with
  | nil => simp [InOrder]
  | cons step steps ih => simp [InOrder, ih, and_assoc]

/-! ## One document -/

variable (server repository)

/-- The steps by which a document is asked for, and the answer to take with the token to use from
then on. -/
inductive Round (d : Document) (token : Option String) :
    List Step → Except Error (HttpResponse × Option String) → Prop
  | once (answer : Except HttpFailure HttpResponse) :
    Round d token [server.documentStep repository token d answer]
      ((server.orUnavailable answer).map (·, token))
  /-- A token is wanted, and it is not known from where. -/
  | astray {response : HttpResponse} (e : Error) :
    Round d token [server.documentStep repository token d (.ok response)] (.error e)
  | refused {response : HttpResponse} {challenge : BearerChallenge} {address : Url}
      {answer : Except HttpFailure HttpResponse}
      {result : Except Error (HttpResponse × Option String)} (ht : token = none)
      (hc : challenge? response = some challenge) (hu : tokenUrl challenge = .ok address)
      (hr : ∀ sent, result = .ok sent → sent.1 = response) :
    Round d token [server.documentStep repository token d (.ok response), tokenStep address answer]
      result
  | granted {response : HttpResponse} {challenge : BearerChallenge} {address : Url}
      {answer : Except HttpFailure HttpResponse} {fresh : String} (ht : token = none)
      (hc : challenge? response = some challenge) (hu : tokenUrl challenge = .ok address)
      (hg : granted? answer = some fresh) (answer' : Except HttpFailure HttpResponse) :
    Round d token
      [server.documentStep repository token d (.ok response), tokenStep address answer,
        server.againStep repository (some fresh) d answer']
      ((server.orUnavailable answer').map (·, some fresh))

variable {server repository}

/-- An answer that wants a token fulfils nothing. -/
theorem isSuccess_of_challenge? {response : HttpResponse} {challenge : BearerChallenge}
    (h : challenge? response = some challenge) : response.isSuccess = false := by
  rw [challenge?] at h
  split at h
  · rename_i hs
    simp [HttpResponse.isSuccess, hs]
  · cases h

theorem isSuccess_of_readManifest {response : HttpResponse} {found : Option String × Manifest}
    (h : server.readManifest response = .ok (some found)) : response.isSuccess = true := by
  rw [readManifest] at h
  split at h
  · assumption
  · split at h <;> cases h

theorem eq_ok_of_orUnavailable {α : Type} {r : Except HttpFailure α} {a : α}
    (h : server.orUnavailable r = .ok a) : r = .ok a := by
  cases r with
  | error failure => cases h
  | ok b =>
    cases h
    rfl

theorem orUnavailable_map_eq_ok {answer : Except HttpFailure HttpResponse} {response : HttpResponse}
    {token token' : Option String}
    (h : (server.orUnavailable answer).map (·, token) = .ok (response, token')) :
    answer = .ok response ∧ token' = token := by
  cases answer with
  | error failure => cases h
  | ok r =>
    cases h
    exact ⟨rfl, rfl⟩

namespace Round

variable {d : Document} {token token' : Option String} {steps : List Step}
  {response : HttpResponse} {result : Except Error (HttpResponse × Option String)}

/-- The steps for a document that is due are allowed. -/
theorem inOrder (h : server.Round repository d token steps result) {before : List Step}
    (hh : held before = token) (due : server.Due reference before d) :
    server.InOrder repository reference before steps := by
  subst hh
  have hn (answer) (h : held before = none) :
      held (before ++ [server.documentStep repository (held before) d answer]) = none := by
    simp [held_append, h]
  cases h with
  | once answer => exact ⟨.document due answer, trivial⟩
  | astray e => exact ⟨.document due _, trivial⟩
  | @refused _ _ _ answer _ ht hc hu hr =>
    exact ⟨.document due _, .token (hn _ ht) List.getLast?_concat rfl rfl hc hu answer, trivial⟩
  | @granted refusal _ address answer fresh ht hc hu hg answer' =>
    have hf : held (before ++ [server.documentStep repository (held before) d (.ok refusal)] ++
        [tokenStep address answer]) = some fresh := by
      simp [held_append, ht, hg]
    refine ⟨.document due _, .token (hn _ ht) List.getLast?_concat rfl rfl hc hu answer, ?_,
      trivial⟩
    rw [← hf]
    exact .again (List.append_assoc ..) rfl rfl hg answer'

/-- How a document is asked for that leads on: the last answer is the one to take. Either it comes
at once, or after a token was handed out. -/
theorem of_isSuccess (h : server.Round repository d token steps (.ok (response, token')))
    (hs : response.isSuccess = true) :
    (∃ last, steps.getLast? = some last ∧ last.answer = .ok response) ∧
      (∀ before, held before = token → held (before ++ steps) = token') ∧
      (token' = token ∧ steps.length = 1 ∧ tokenSteps steps = [] ∨
        token = none ∧ token'.isSome = true ∧ steps.length = 3 ∧
          (tokenSteps steps).length = 1) := by
  generalize hr : Except.ok (response, token') = result at h
  cases h with
  | once answer =>
    obtain ⟨rfl, rfl⟩ := orUnavailable_map_eq_ok hr.symm
    refine ⟨⟨_, rfl, rfl⟩, fun before hh => ?_, .inl ⟨rfl, rfl, rfl⟩⟩
    simp [held_append, hh]
  | astray e => cases hr
  | refused ht hc hu hn =>
    obtain rfl := hn _ hr.symm
    rw [isSuccess_of_challenge? hc] at hs
    cases hs
  | granted ht hc hu hg answer' =>
    obtain ⟨rfl, rfl⟩ := orUnavailable_map_eq_ok hr.symm
    refine ⟨⟨_, rfl, rfl⟩, fun before hh => ?_, .inr ⟨ht, rfl, rfl, rfl⟩⟩
    simp [held_append, hh, ht, hg]

theorem length_le (h : server.Round repository d none steps result) :
    steps.length ≤ 3 ∧ (tokenSteps steps).length ≤ 1 := by
  cases h <;> simp [tokenSteps, documentStep, tokenStep, againStep]

/-- With a token, a document is asked for once. -/
theorem length_of_token {held : String}
    (h : server.Round repository d (some held) steps result) :
    steps.length = 1 ∧ tokenSteps steps = [] := by
  cases h with
  | once answer => exact ⟨rfl, rfl⟩
  | astray e => exact ⟨rfl, rfl⟩
  | refused ht => cases ht
  | granted ht => cases ht

end Round

/-! ## One document after the other -/

variable (server repository)

/-- The steps by which a document and those that follow from it are read, at most so many. -/
inductive Reading : Nat → Document → Option String → List Step → Prop
  | last {n : Nat} {d : Document} {token : Option String} {steps : List Step}
      {result : Except Error (HttpResponse × Option String)}
      (round : server.Round repository d token steps result) :
    Reading (n + 1) d token steps
  | next {n : Nat} {d d' : Document} {token token' : Option String} {steps later : List Step}
      {response : HttpResponse} {digest : Option String} {manifest : Manifest}
      (round : server.Round repository d token steps (.ok (response, token')))
      (hm : server.readManifest response = .ok (some (digest, manifest))) (hd : Leads manifest d')
      (rest : Reading n d' token' later) :
    Reading (n + 1) d token (steps ++ later)

variable {server repository}

theorem tokenSteps_append (steps later : List Step) :
    tokenSteps (steps ++ later) = tokenSteps steps ++ tokenSteps later :=
  List.filter_append ..

namespace Reading

variable {n : Nat} {d : Document} {token : Option String} {steps : List Step}

theorem inOrder (h : server.Reading repository n d token steps) {before : List Step}
    (hh : held before = token) (due : server.Due reference before d) :
    server.InOrder repository reference before steps := by
  induction h generalizing before with
  | last round => exact round.inOrder hh due
  | @next n d d' token token' steps later response digest manifest round hm hd rest ih =>
    obtain ⟨⟨last, hl, ha⟩, hheld, -⟩ := round.of_isSuccess (isSuccess_of_readManifest hm)
    have hlast : (before ++ steps).getLast? = some last := by
      rw [List.getLast?_append, hl, Option.some_or]
    exact inOrder_append.mpr ⟨round.inOrder hh due, ih (hheld before hh) (.next hlast ha hm hd)⟩

theorem length_of_token (h : server.Reading repository n d token steps) (ht : token.isSome = true) :
    steps.length ≤ n ∧ tokenSteps steps = [] := by
  induction h with
  | last round =>
    obtain ⟨fresh, rfl⟩ := Option.isSome_iff_exists.mp ht
    obtain ⟨hlen, htokens⟩ := round.length_of_token
    exact ⟨by omega, htokens⟩
  | next round hm hd rest ih =>
    obtain ⟨-, -, ⟨rfl, hlen, htokens⟩ | ⟨rfl, -⟩⟩ :=
      round.of_isSuccess (isSuccess_of_readManifest hm)
    · obtain ⟨hlater, hnone⟩ := ih ht
      rw [List.length_append, tokenSteps_append, htokens, hnone]
      exact ⟨by omega, rfl⟩
    · cases ht

theorem length_le (h : server.Reading repository n d token steps) (ht : token = none) :
    steps.length ≤ n + 2 ∧ (tokenSteps steps).length ≤ 1 := by
  induction h with
  | last round =>
    subst ht
    obtain ⟨hlen, htokens⟩ := round.length_le
    exact ⟨by omega, htokens⟩
  | next round hm hd rest ih =>
    rw [List.length_append, tokenSteps_append, List.length_append]
    obtain ⟨-, -, ⟨rfl, hlen, htokens⟩ | ⟨-, hsome, hlen, htokens⟩⟩ :=
      round.of_isSuccess (isSuccess_of_readManifest hm)
    · obtain ⟨hlater, hle⟩ := ih ht
      rw [htokens, List.length_nil]
      omega
    · obtain ⟨hlater, hnone⟩ := rest.length_of_token hsome
      rw [hnone, List.length_nil]
      omega

theorem orderly (h : server.Reading repository 3 (.manifest reference) none steps) :
    server.Orderly repository reference steps where
  inOrder := h.inOrder rfl (.first rfl)
  length_le := (h.length_le rfl).1
  length_tokenSteps_le := (h.length_le rfl).2

end Reading

/-! ## Every fetch -/

section Fetch

variable (server : RegistryServer) (http : HttpClient (StateM σ))

theorem ask_records (r : HttpRequest) (s : σ) :
    Records (server.ask http.noted r) (server.ask http r) s fun calls result _ =>
      ∃ answer, calls = [⟨r, answer⟩] ∧ result = server.orUnavailable answer := by
  refine Records.bindState (.of_note (Exchange.mk r) (http.get r) s) ?_
  rintro _ answer t rfl
  exact Notes.pure id (server.orUnavailable answer) ⟨answer, rfl, rfl⟩

/-- A token is asked for where the challenge says, and what comes of it is what the answer
grants. -/
theorem fetchToken_records (challenge : BearerChallenge) (s : σ) :
    Records (server.fetchToken http.noted challenge) (server.fetchToken http challenge) s
      fun calls result _ =>
        (calls = [] ∧ ∃ e, result = .error e) ∨
        ∃ address answer, tokenUrl challenge = .ok address ∧
          calls = [⟨{ url := address.toString }, answer⟩] ∧
          ∀ fresh?, result = .ok fresh? → granted? answer = fresh? := by
  rw [fetchToken, fetchToken]
  cases hu : tokenUrl challenge with
  | error fault => exact Records.throw _ (.inl ⟨rfl, _, rfl⟩)
  | ok address =>
    refine Records.bind (ask_records server http _ s) ?_ ?_
    · rintro _ response t ⟨answer, rfl, ha⟩
      obtain rfl := eq_ok_of_orUnavailable ha.symm
      cases hs : response.isSuccess with
      | false =>
        refine Records.pure none (.inr ⟨address, .ok response, rfl, rfl, fun fresh? hf => ?_⟩)
        cases hf
        simp [granted?, hs]
      | true =>
        refine Notes.pure id (server.orUnavailable (response.decode _ _))
          (.inr ⟨address, .ok response, rfl, rfl, fun fresh? hf => ?_⟩)
        simp [granted?, hs, eq_ok_of_orUnavailable hf, Except.toOption]
    · rintro _ e t ⟨answer, rfl, -⟩
      exact .inr ⟨address, answer, rfl, rfl, nofun⟩

/-- A request whose answer is to be taken with a token. -/
theorem ask_map_records (r : HttpRequest) (token : Option String) (s : σ) :
    Records (server.ask http.noted r >>= fun response => pure (response, token))
      (server.ask http r >>= fun response => pure (response, token)) s
      fun calls result _ => ∃ answer, calls = [⟨r, answer⟩] ∧
        result = (server.orUnavailable answer).map (·, token) := by
  refine Records.bind (ask_records server http r s) ?_ ?_
  · rintro _ response t ⟨answer, rfl, ha⟩
    exact Records.pure _ ⟨answer, rfl, by rw [← ha]; rfl⟩
  · rintro _ e t ⟨answer, rfl, ha⟩
    exact ⟨answer, rfl, by rw [← ha]; rfl⟩

/-- A document is asked for as `Round` says. -/
theorem send_records (repository : String) (d : Document) (token : Option String) (s : σ) :
    Records (server.send http.noted token (server.documentUrl repository d) d.accepted?)
      (server.send http token (server.documentUrl repository d) d.accepted?) s
      fun calls result _ => ∃ steps : List Step, calls = steps.map (·.toExchange) ∧
        server.Round repository d token steps result := by
  refine Records.bind (ask_records server http _ s) ?_ ?_
  · rintro _ response t ⟨answer, rfl, ha⟩
    obtain rfl := eq_ok_of_orUnavailable ha.symm
    have hplain : server.Round repository d token _ _ := .once (.ok response)
    cases token with
    | some held => exact Records.pure _ ⟨_, rfl, hplain⟩
    | none =>
      cases hc : challenge? response with
      | none => exact Records.pure _ ⟨_, rfl, hplain⟩
      | some challenge =>
        refine Records.bind (fetchToken_records server http challenge t) ?_ ?_
        · rintro _ fresh? u (⟨-, e, he⟩ | ⟨address, answer, hu, rfl, hg⟩)
          · cases he
          cases fresh? with
          | none =>
            refine Records.pure _ ⟨_, rfl, .refused rfl hc hu fun sent h => ?_⟩
            cases h
            rfl
          | some fresh =>
            refine (ask_map_records server http _ (some fresh) u).mono ?_
            rintro _ _ - ⟨answer', rfl, rfl⟩
            exact ⟨_, rfl, .granted rfl hc hu (hg _ rfl) answer'⟩
        · rintro _ e u (⟨rfl, -⟩ | ⟨address, answer, hu, rfl, -⟩)
          · exact ⟨_, rfl, .astray e⟩
          · exact ⟨_, rfl, .refused rfl hc hu nofun⟩
  · rintro _ e t ⟨answer, rfl, ha⟩
    have round : server.Round repository d token _ _ := .once answer
    rw [← ha] at round
    exact ⟨_, rfl, round⟩

/-- A manifest is asked for as `Round` says, and what is found is what the answer to take says. -/
theorem fetchManifest_records (token : Option String) (repository reference : String) (s : σ) :
    Records (server.fetchManifest http.noted token repository reference)
      (server.fetchManifest http token repository reference) s
      fun calls result _ => ∃ (steps : List Step) (sent : _), calls = steps.map (·.toExchange) ∧
        server.Round repository (.manifest reference) token steps sent ∧
        ∀ found token', result = .ok (found, token') →
          ∃ response, sent = .ok (response, token') ∧ server.readManifest response = .ok found := by
  refine Records.bind (send_records server http repository (.manifest reference) token s) ?_ ?_
  · rintro _ ⟨response, token'⟩ t ⟨steps, rfl, round⟩
    refine Records.bindExcept (fun found hf => ?_) fun e he => ?_
    · refine Records.pure _ ⟨steps, _, List.append_nil _, round, ?_⟩
      rintro _ _ ⟨⟩
      exact ⟨response, rfl, hf⟩
    · exact ⟨steps, _, List.append_nil _, round, nofun⟩
  · rintro _ e t ⟨steps, rfl, round⟩
    exact ⟨steps, _, rfl, round, nofun⟩

/-- The settings are asked for as `Round` says, if a manifest leads to them. -/
theorem fetchSettings_records (token : Option String) (repository : String) (digest : Option String)
    (manifest : Manifest) (s : σ) :
    Records (server.fetchSettings http.noted token repository digest manifest)
      (server.fetchSettings http token repository digest manifest) s
      fun calls _ _ => calls = [] ∨ ∃ (d : Document) (steps : List Step) (sent : _),
        Leads manifest d ∧ calls = steps.map (·.toExchange) ∧
          server.Round repository d token steps sent := by
  rw [fetchSettings, fetchSettings]
  cases hc : manifest.config with
  | none => exact Records.pure _ (.inl rfl)
  | some config =>
    have hd : Leads manifest (.settings config) := .settings hc
    refine Records.bind (send_records server http repository (.settings config) token s) ?_ ?_
    · rintro _ ⟨response, token'⟩ t ⟨steps, rfl, round⟩
      refine Records.bindExcept (fun settings _ => Records.pure _ ?_) fun e _ => ?_
      · exact .inr ⟨_, steps, _, hd, List.append_nil _, round⟩
      · exact .inr ⟨_, steps, _, hd, List.append_nil _, round⟩
    · rintro _ e t ⟨steps, rfl, round⟩
      exact .inr ⟨_, steps, _, hd, rfl, round⟩

/-- After a manifest, the settings are read to which it leads. -/
theorem readOn_records (n : Nat) {repository : String} {d : Document}
    {token token' : Option String} {steps : List Step} {response : HttpResponse}
    {digest : Option String} {manifest : Manifest}
    (round : server.Round repository d token steps (.ok (response, token')))
    (hm : server.readManifest response = .ok (some (digest, manifest))) (id : Option String)
    (s : σ) :
    Records (some <$> server.fetchSettings http.noted token' repository id manifest)
      (some <$> server.fetchSettings http token' repository id manifest) s
      fun calls _ _ => ∃ read : List Step,
        steps.map (·.toExchange) ++ calls = read.map (·.toExchange) ∧
          server.Reading repository (n + 2) d token read := by
  have reading {calls : List Exchange}
      (h : calls = [] ∨ ∃ (d : Document) (later : List Step) (sent : _), Leads manifest d ∧
        calls = later.map (·.toExchange) ∧ server.Round repository d token' later sent) :
      ∃ read : List Step, steps.map (·.toExchange) ++ calls = read.map (·.toExchange) ∧
        server.Reading repository (n + 2) d token read := by
    rcases h with rfl | ⟨d', later, sent, hd, rfl, next⟩
    · exact ⟨steps, List.append_nil _, .last round⟩
    · exact ⟨steps ++ later, List.map_append.symm, .next round hm hd (.last next)⟩
  rw [map_eq_pure_bind, map_eq_pure_bind]
  refine Records.bind (fetchSettings_records server http token' repository id manifest s) ?_ ?_
  · intro calls image t h
    refine Records.pure _ ?_
    rw [List.append_nil]
    exact reading h
  · intro calls e t h
    exact reading h

/-- An image is read with at most three documents. -/
theorem fetchImage_records (repository reference : String) (s : σ) :
    Records (server.fetchImage http.noted repository reference)
      (server.fetchImage http repository reference) s
      fun calls _ _ => ∃ steps : List Step, calls = steps.map (·.toExchange) ∧
        server.Reading repository 3 (.manifest reference) none steps := by
  refine Records.bind (fetchManifest_records server http none repository reference s) ?_ ?_
  · rintro _ ⟨found, token⟩ t ⟨steps, sent, rfl, round, hfound⟩
    obtain ⟨response, rfl, hm⟩ := hfound _ _ rfl
    have last : ∃ read : List Step,
        steps.map (·.toExchange) ++ [] = read.map (·.toExchange) ∧
          server.Reading repository 3 (.manifest reference) none read :=
      ⟨steps, List.append_nil _, .last round⟩
    rcases found with _ | ⟨digest, manifest⟩
    · exact Records.pure _ last
    cases he : manifest.entries with
    | none =>
      simp only [he]
      exact readOn_records server http 1 round hm digest t
    | some entries =>
      cases hc : PlatformEntry.choose entries with
      | none =>
        simp only [he, hc]
        exact Records.pure _ last
      | some chosen =>
        simp only [he, hc]
        have hd : Leads manifest (.manifest chosen) := .platform he hc
        refine Records.bind (fetchManifest_records server http token repository chosen t) ?_ ?_
        · rintro _ ⟨found', token'⟩ u ⟨later, sent, rfl, round', hfound'⟩
          obtain ⟨response', rfl, hm'⟩ := hfound' _ _ rfl
          rcases found' with _ | ⟨digest', manifest'⟩
          · refine Records.pure _ ⟨steps ++ later, ?_, .next round hm hd (.last round')⟩
            rw [List.append_nil, List.map_append]
          · refine (readOn_records server http 0 round' hm' (some chosen) u).mono ?_
            rintro calls _ _ ⟨read, hcalls, reading⟩
            refine ⟨steps ++ read, ?_, .next round hm hd reading⟩
            rw [hcalls, List.map_append]
        · rintro _ e u ⟨later, sent, rfl, round', -⟩
          exact ⟨steps ++ later, List.map_append.symm, .next round hm hd (.last round')⟩
  · rintro _ e t ⟨steps, sent, rfl, round, -⟩
    exact ⟨steps, rfl, .last round⟩

end Fetch

end RegistryServer

end DeployPlan
