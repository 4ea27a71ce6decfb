import DeployPlan.Proofs.Recording
import DeployPlan.Registry.Exchange

/-!
# Tokens that anybody gets

What a registry has is a `Page` for each address. A server that serves pages may be asked `openly`,
or behind a `Guard`, which refuses some addresses to whoever has no token and says where to get one.
If everybody gets one there (`Guard.Anonymous`), the guard makes no difference:
`fetchImage_guarded` says that the same image comes of a fetch, or the same error, whichever
addresses the guard covers, and that it is the one that the pages describe (`Describes`).

Whatever is covered, the answer to take in the end is the page itself (`run_send`), and the token
that is held from then on opens all other pages (`Guard.Opens`).
-/

namespace DeployPlan

/-- What a server has at an address. -/
structure Page where
  status : Nat
  digest : Option String := none
  body : String := ""
  deriving DecidableEq, Repr

def Page.response (p : Page) : HttpResponse where
  status := p.status
  headers := p.digest.elim [] fun digest => [("docker-content-digest", digest)]
  body := p.body

/-- Keeps some addresses for those who have a token. -/
structure Guard where
  covers : String → Bool
  /-- The answer to whoever has none. -/
  refusal : String → HttpResponse
  accepts : String → Bool

namespace HttpClient

/-- Asks a server that has a page at each address. -/
def openly (content : String → Page) : HttpClient Id :=
  .overNetwork fun r => some (content r.url).response

/-- Asks the same server behind a guard. -/
def guarded (content : String → Page) (guard : Guard) : HttpClient Id :=
  .overNetwork fun r => some <|
    if guard.covers r.url && !r.bearer.any guard.accepts then guard.refusal r.url
    else (content r.url).response

end HttpClient

namespace Guard

open RegistryServer (challenge? tokenUrl)

/-- A refusal says where to get a token, and there a token is handed out that is accepted. -/
structure HandsOut (guard : Guard) (content : String → Page) (url : String)
    (challenge : BearerChallenge) (address : Url) (token : String) : Prop where
  challenge_eq : challenge? (guard.refusal url) = some challenge
  address_eq : tokenUrl challenge = .ok address
  askable : { url := address.toString : HttpRequest }.fault? = none
  uncovered : guard.covers address.toString = false
  fulfilled : (content address.toString).response.isSuccess = true
  token_eq : (content address.toString).response.decode Encoding.tokenShape Encoding.token? =
    .ok (some token)
  sendable : token.toList.all HttpRequest.isTokenChar = true
  accepted : guard.accepts token = true

/-- Whoever is refused gets a token. -/
def Anonymous (guard : Guard) (content : String → Page) : Prop :=
  ∀ url, guard.covers url = true →
    ∃ challenge address token, guard.HandsOut content url challenge address token

/-- The token, if there is one, opens everything. -/
def Opens (guard : Guard) (token : Option String) : Prop :=
  ∀ held ∈ token, held.toList.all HttpRequest.isTokenChar = true ∧ guard.accepts held = true

theorem opens_none (guard : Guard) : guard.Opens none :=
  fun _ h => nomatch h

theorem HandsOut.opens {guard : Guard} {content : String → Page} {url : String}
    {challenge : BearerChallenge} {address : Url} {token : String}
    (h : guard.HandsOut content url challenge address token) : guard.Opens (some token) := by
  rintro _ ⟨⟩
  exact ⟨h.sendable, h.accepted⟩

end Guard

namespace PlatformEntry

/-- The entry to take from a list: the first one for Linux on AMD64, else the first one. -/
inductive Preferred : List PlatformEntry → PlatformEntry → Prop
  | platform {before after : List PlatformEntry} {entry : PlatformEntry}
      (h : entry.platform = some { architecture := "amd64", os := "linux" })
      (hn : ∀ other ∈ before,
        other.platform ≠ some { architecture := "amd64", os := "linux" }) :
    Preferred (before ++ entry :: after) entry
  | first {entry : PlatformEntry} {after : List PlatformEntry}
      (hn : ∀ other ∈ entry :: after,
        other.platform ≠ some { architecture := "amd64", os := "linux" }) :
    Preferred (entry :: after) entry

theorem isPreferred_iff (e : PlatformEntry) :
    e.isPreferred = true ↔ e.platform = some { architecture := "amd64", os := "linux" } := by
  rcases e with ⟨digest, _ | ⟨architecture, os⟩⟩
  · simp [isPreferred]
  · simp [isPreferred, and_comm]

theorem choose_eq_none_iff {entries : List PlatformEntry} :
    choose entries = none ↔ entries = [] := by
  cases entries <;> simp [choose]

theorem preferred_of_choose {entries : List PlatformEntry} {digest : String}
    (h : choose entries = some digest) :
    ∃ entry, Preferred entries entry ∧ entry.digest = digest := by
  rw [choose, Option.map_eq_some_iff] at h
  obtain ⟨entry, hentry, rfl⟩ := h
  refine ⟨entry, ?_, rfl⟩
  cases hf : entries.find? isPreferred with
  | some found =>
    obtain rfl : found = entry := by simpa [hf] using hentry
    obtain ⟨hp, before, after, rfl, hn⟩ := List.find?_eq_some_iff_append.mp hf
    refine .platform ((isPreferred_iff _).mp hp) fun other ho h => ?_
    simpa [(isPreferred_iff other).mpr h] using hn other ho
  | none =>
    rw [hf, Option.none_or, List.head?_eq_some_iff] at hentry
    obtain ⟨after, rfl⟩ := hentry
    refine .first fun other ho h => ?_
    exact List.find?_eq_none.mp hf other ho ((isPreferred_iff other).mpr h)

end PlatformEntry

/-! ## Computations that ask nobody else -/

theorem run_bind_ok {α β : Type} {x : ExceptT Error Id α} {a : α} (h : x.run = .ok a)
    (f : α → ExceptT Error Id β) : (x >>= f).run = (f a).run := by
  rw [ExceptT.run_bind, h]
  rfl

theorem run_bind_error {α β : Type} {x : ExceptT Error Id α} {e : Error} (h : x.run = .error e)
    (f : α → ExceptT Error Id β) : (x >>= f).run = .error e := by
  rw [ExceptT.run_bind, h]
  rfl

theorem run_bind_map {α β γ : Type} {x : ExceptT Error Id β} {r : Except Error α} {g : α → β}
    (h : x.run = r.map g) (f : β → ExceptT Error Id γ) :
    (x >>= f).run = r.bind fun a => (f (g a)).run := by
  cases r with
  | error e => exact run_bind_error h f
  | ok a => exact run_bind_ok h f

theorem run_bind_pure {α β : Type} {x : ExceptT Error Id α} {r : Except Error α} (h : x.run = r)
    (g : α → β) : (x >>= fun a => pure (g a)).run = r.map g := by
  rw [ExceptT.run_bind, h]
  cases r <;> rfl

namespace RegistryServer

variable (server : RegistryServer) (content : String → Page) (repository : String)

/-! ## What the pages describe -/

def answerAt (url : String) : Except Error HttpResponse :=
  server.orUnavailable ((HttpClient.openly content).get { url })

def manifestAt (reference : String) : Except Error (Option (Option String × Manifest)) :=
  server.answerAt content (server.manifestUrl repository reference) >>= server.readManifest

def settingsAt (digest : String) : Except Error ContainerSettings :=
  let url := server.blobUrl repository digest
  server.answerAt content url >>= server.readSettings url

/-- The image that a manifest describes, with the settings to which it leads. -/
def imageOf (digest : Option String) (manifest : Manifest) : Except Error RegistryImage :=
  match manifest.config with
  | none => .ok { digest }
  | some config => (server.settingsAt content repository config).map fun settings =>
    { digest, settings }

/-- The image for the platform of an entry. The entry tells its digest, whatever the server says,
and a list in its manifest is not followed. -/
def platformImageAt (digest : String) : Except Error (Option RegistryImage) :=
  server.manifestAt content repository digest >>= fun found =>
    match found with
    | none => .ok none
    | some (_, manifest) => (server.imageOf content repository (some digest) manifest).map some

def imageAt (reference : String) : Except Error (Option RegistryImage) :=
  server.manifestAt content repository reference >>= fun found =>
    match found with
    | none => .ok none
    | some (digest, manifest) =>
      match manifest.entries with
      | none => (server.imageOf content repository digest manifest).map some
      | some entries =>
        match PlatformEntry.choose entries with
        | none => .ok none
        | some chosen => server.platformImageAt content repository chosen

/-- What comes of reading an image from the pages. -/
inductive Describes (reference : String) : Except Error (Option RegistryImage) → Prop
  | unread {e : Error} (h : server.manifestAt content repository reference = .error e) :
    Describes reference (.error e)
  | absent (h : server.manifestAt content repository reference = .ok none) :
    Describes reference (.ok none)
  | single {digest : Option String} {manifest : Manifest}
      (h : server.manifestAt content repository reference = .ok (some (digest, manifest)))
      (he : manifest.entries = none) :
    Describes reference ((server.imageOf content repository digest manifest).map some)
  | empty {digest : Option String} {manifest : Manifest}
      (h : server.manifestAt content repository reference = .ok (some (digest, manifest)))
      (he : manifest.entries = some []) :
    Describes reference (.ok none)
  | platform {digest : Option String} {manifest : Manifest} {entries : List PlatformEntry}
      {entry : PlatformEntry}
      (h : server.manifestAt content repository reference = .ok (some (digest, manifest)))
      (he : manifest.entries = some entries) (hp : PlatformEntry.Preferred entries entry) :
    Describes reference (server.platformImageAt content repository entry.digest)

variable {server content repository}

theorem describes_imageAt (reference : String) :
    server.Describes content repository reference
      (server.imageAt content repository reference) := by
  rw [imageAt]
  cases hm : server.manifestAt content repository reference with
  | error e => exact .unread hm
  | ok found =>
    rcases found with _ | ⟨digest, manifest⟩
    · exact .absent hm
    show server.Describes _ _ _ (match manifest.entries with | none => _ | some entries => _)
    cases he : manifest.entries with
    | none => exact .single hm he
    | some entries =>
      show server.Describes _ _ _
        (match PlatformEntry.choose entries with | none => _ | some chosen => _)
      cases hc : PlatformEntry.choose entries with
      | none =>
        obtain rfl := PlatformEntry.choose_eq_none_iff.mp hc
        exact .empty hm he
      | some chosen =>
        obtain ⟨entry, hp, rfl⟩ := PlatformEntry.preferred_of_choose hc
        exact .platform hm he hp

/-! ## One answer behind a guard -/

variable {guard : Guard} {token : Option String}

theorem fault?_of_opens (ht : guard.Opens token) (url : String) (accept : Option String) :
    { url, accept, bearer := token : HttpRequest }.fault? = { url : HttpRequest }.fault? := by
  cases token with
  | none => rfl
  | some held =>
    have hsent : held.toList.all HttpRequest.isTokenChar = true := (ht held rfl).1
    have hnone : (some held).any (fun t => !t.toList.all HttpRequest.isTokenChar) = false := by
      rw [Option.any_some, hsent, Bool.not_true]
    simp only [HttpRequest.fault?, hnone]
    rfl

theorem get_of_fault {connect : HttpRequest → Id (Option HttpResponse)} {r : HttpRequest}
    {fault : HttpFailure} (h : r.fault? = some fault) :
    (HttpClient.overNetwork connect).get r = .error fault := by
  simp only [HttpClient.overNetwork, h]
  rfl

/-- Nobody is refused who has a token. -/
theorem get_guarded (ht : guard.Opens token) {url : String}
    (h : guard.covers url = true → token.isSome = true) (accept : Option String) :
    (HttpClient.guarded content guard).get { url, accept, bearer := token } =
      (HttpClient.openly content).get { url } := by
  have hshown : (guard.covers url && !token.any guard.accepts) = false := by
    cases token with
    | none => simpa using h
    | some held => simp [(ht held rfl).2]
  simp only [HttpClient.guarded, HttpClient.openly, HttpClient.overNetwork, fault?_of_opens ht,
    hshown]
  rfl

theorem get_guarded_of_covers {url : String} (hf : { url : HttpRequest }.fault? = none)
    (h : guard.covers url = true) (accept : Option String) :
    (HttpClient.guarded content guard).get { url, accept } = .ok (guard.refusal url) := by
  have hf' : { url, accept : HttpRequest }.fault? = none := hf
  simp only [HttpClient.guarded, HttpClient.overNetwork, hf', h]
  rfl

theorem get_openly (url : String) (hf : { url : HttpRequest }.fault? = none) :
    (HttpClient.openly content).get { url } = .ok (content url).response := by
  simp only [HttpClient.openly, HttpClient.overNetwork, hf]
  rfl

theorem challenge?_response (page : Page) : challenge? page.response = none := by
  have hh : page.response.header? "www-authenticate" = none := by
    rcases page with ⟨status, _ | digest, body⟩ <;> rfl
  rw [challenge?, hh]
  exact ite_self none

theorem answerAt_of_fault {url : String} {fault : HttpFailure}
    (hf : { url : HttpRequest }.fault? = some fault) :
    server.answerAt content url = .error (server.unavailable fault.message) := by
  rw [answerAt, HttpClient.openly, get_of_fault hf]
  rfl

theorem answerAt_of_askable {url : String} (hf : { url : HttpRequest }.fault? = none) :
    server.answerAt content url = .ok (content url).response := by
  rw [answerAt, get_openly url hf]
  rfl

theorem run_ask (http : HttpClient Id) (r : HttpRequest) :
    (server.ask http r).run = server.orUnavailable (http.get r) :=
  rfl

theorem run_ask_of_fault (ht : guard.Opens token) {url : String} {fault : HttpFailure}
    (hf : { url : HttpRequest }.fault? = some fault) (accept : Option String) :
    (server.ask (.guarded content guard) { url, accept, bearer := token }).run =
      .error (server.unavailable fault.message) := by
  rw [run_ask, HttpClient.guarded, get_of_fault ((fault?_of_opens ht url accept).trans hf)]
  rfl

/-- Who is not refused gets the page. -/
theorem run_ask_of_askable (ht : guard.Opens token) {url : String}
    (hf : { url : HttpRequest }.fault? = none)
    (h : guard.covers url = true → token.isSome = true) (accept : Option String) :
    (server.ask (.guarded content guard) { url, accept, bearer := token }).run =
      .ok (content url).response := by
  rw [run_ask, get_guarded ht h, get_openly url hf]
  rfl

theorem run_ask_of_covers {url : String} (hf : { url : HttpRequest }.fault? = none)
    (h : guard.covers url = true) (accept : Option String) :
    (server.ask (.guarded content guard) { url, accept }).run = .ok (guard.refusal url) := by
  rw [run_ask, get_guarded_of_covers hf h]
  rfl

/-- The token is fetched that a guard hands out. -/
theorem run_fetchToken {url : String} {challenge : BearerChallenge} {address : Url}
    {fresh : String} (h : guard.HandsOut content url challenge address fresh) :
    (server.fetchToken (.guarded content guard) challenge).run = .ok (some fresh) := by
  have hask : (server.ask (.guarded content guard) { url := address.toString }).run =
      .ok (content address.toString).response :=
    run_ask_of_askable guard.opens_none h.askable (by simp [h.uncovered]) none
  rw [fetchToken, h.address_eq]
  refine (run_bind_ok hask _).trans ?_
  rw [h.fulfilled, h.token_eq]
  rfl

/-- Who has no token and is refused gets one, and with it the page. -/
theorem run_send_of_covers {url : String} (hf : { url : HttpRequest }.fault? = none)
    (hc : guard.covers url = true) {challenge : BearerChallenge} {address : Url} {fresh : String}
    (hand : guard.HandsOut content url challenge address fresh) (accept : Option String) :
    (server.send (.guarded content guard) none url accept).run =
      .ok ((content url).response, some fresh) := by
  refine (run_bind_ok (run_ask_of_covers hf hc accept) _).trans ?_
  rw [hand.challenge_eq]
  refine (run_bind_ok (run_fetchToken hand) _).trans ?_
  exact run_bind_ok (run_ask_of_askable hand.opens hf (fun _ => rfl) accept) _

/-- Whatever a guard covers, the answer to take is the page. -/
theorem run_send (server : RegistryServer) (h : guard.Anonymous content) (ht : guard.Opens token)
    (url : String) (accept : Option String) :
    ∃ token', guard.Opens token' ∧
      (server.send (.guarded content guard) token url accept).run =
        (server.answerAt content url).map (·, token') := by
  cases hf : { url : HttpRequest }.fault? with
  | some fault =>
    refine ⟨none, guard.opens_none, ?_⟩
    rw [answerAt_of_fault hf]
    exact run_bind_error (run_ask_of_fault ht hf accept) _
  | none =>
    rw [answerAt_of_askable hf]
    by_cases hr : guard.covers url = true → token.isSome = true
    · refine ⟨token, ht, (run_bind_ok (run_ask_of_askable ht hf hr accept) _).trans ?_⟩
      rw [challenge?_response]
      cases token <;> rfl
    · obtain ⟨hc, hn⟩ := Classical.not_imp.mp hr
      obtain rfl : token = none := by simpa using hn
      obtain ⟨challenge, address, fresh, hand⟩ := h url hc
      exact ⟨some fresh, hand.opens, run_send_of_covers hf hc hand accept⟩

/-! ## Every fetch behind a guard -/

/-- The manifest is the one that the pages have. -/
theorem run_fetchManifest (server : RegistryServer) (repository : String)
    (h : guard.Anonymous content) (ht : guard.Opens token) (reference : String) :
    ∃ token', guard.Opens token' ∧
      (server.fetchManifest (.guarded content guard) token repository reference).run =
        (server.manifestAt content repository reference).map (·, token') := by
  obtain ⟨token', ht', hsend⟩ :=
    run_send server h ht (server.manifestUrl repository reference) (some manifestKinds)
  refine ⟨token', ht', (run_bind_map hsend _).trans ?_⟩
  rw [manifestAt]
  cases server.answerAt content (server.manifestUrl repository reference) with
  | error e => rfl
  | ok response => exact run_bind_pure rfl (·, token')

/-- The settings are those that the pages have. -/
theorem run_fetchSettings (h : guard.Anonymous content) (ht : guard.Opens token)
    (digest : Option String) (manifest : Manifest) :
    (server.fetchSettings (.guarded content guard) token repository digest manifest).run =
      server.imageOf content repository digest manifest := by
  rw [fetchSettings, imageOf]
  cases manifest.config with
  | none => rfl
  | some config =>
    obtain ⟨token', -, hsend⟩ :=
      run_send server h ht (server.blobUrl repository config) none
    refine (run_bind_map hsend _).trans ?_
    show _ = (server.settingsAt content repository config).map _
    rw [settingsAt]
    cases server.answerAt content (server.blobUrl repository config) with
    | error e => rfl
    | ok response => exact run_bind_pure rfl _

/-- The image for the platform of an entry is fetched as the pages have it. -/
theorem run_fetchPlatform (h : guard.Anonymous content) (ht : guard.Opens token)
    (digest : String) :
    ExceptT.run (do
      match ← server.fetchManifest (.guarded content guard) token repository digest with
      | (none, _) => return none
      | (some (_, manifest), token) =>
        return some (← server.fetchSettings (.guarded content guard) token repository (some digest)
          manifest)) =
      server.platformImageAt content repository digest := by
  obtain ⟨token', ht', hmanifest⟩ :=
    run_fetchManifest server repository h ht digest
  refine (run_bind_map hmanifest _).trans ?_
  rw [platformImageAt]
  cases server.manifestAt content repository digest with
  | error e => rfl
  | ok found =>
    rcases found with _ | ⟨digest', manifest⟩
    · rfl
    · exact run_bind_pure (run_fetchSettings h ht' (some digest) manifest) some

/-- What the pages have for an image comes of a fetch. -/
theorem run_fetchImage (h : guard.Anonymous content) (reference : String) :
    (server.fetchImage (.guarded content guard) repository reference).run =
      server.imageAt content repository reference := by
  obtain ⟨token, ht, hmanifest⟩ :=
    run_fetchManifest server repository h guard.opens_none reference
  refine (run_bind_map hmanifest _).trans ?_
  rw [imageAt]
  cases server.manifestAt content repository reference with
  | error e => rfl
  | ok found =>
    rcases found with _ | ⟨digest, manifest⟩
    · rfl
    show ExceptT.run (match manifest.entries with | none => _ | some entries => _) =
      match manifest.entries with | none => _ | some entries => _
    cases manifest.entries with
    | none => exact run_bind_pure (run_fetchSettings h ht digest manifest) some
    | some entries =>
      show ExceptT.run (match PlatformEntry.choose entries with | none => _ | some chosen => _) =
        match PlatformEntry.choose entries with | none => _ | some chosen => _
      cases PlatformEntry.choose entries with
      | none => rfl
      | some chosen => exact run_fetchPlatform h ht chosen

theorem guarded_of_covers_nothing (accepts : String → Bool) (refusal : String → HttpResponse) :
    HttpClient.guarded content { covers := fun _ => false, refusal, accepts } = .openly content :=
  rfl

/-- A guard that hands a token to everybody makes no difference, whatever it covers: the fetch ends
as it does with the open server, with the image that the pages describe. -/
theorem fetchImage_guarded (h : guard.Anonymous content) (reference : String) :
    (server.fetchImage (.guarded content guard) repository reference).run =
        (server.fetchImage (.openly content) repository reference).run ∧
      server.Describes content repository reference
        (server.fetchImage (.openly content) repository reference).run := by
  have hopen : (server.fetchImage (.openly content) repository reference).run =
      server.imageAt content repository reference := by
    rw [← guarded_of_covers_nothing guard.accepts guard.refusal]
    exact run_fetchImage (fun _ hc => absurd hc Bool.false_ne_true) reference
  rw [run_fetchImage h, hopen]
  exact ⟨rfl, describes_imageAt reference⟩

/-- A registry on this machine that has an image for two platforms, and beside it a service that
hands out tokens. -/
def twoPlatforms : String → Page
  | "http://[::1]:5000/v2/team/app/manifests/1" => {
      status := 200
      digest := some "sha256:a"
      body := "\x7b\"manifests\": [\x7b\"digest\": \"sha256:b\"\x7d, " ++
        "\x7b\"digest\": \"sha256:c\", " ++
        "\"platform\": \x7b\"architecture\": \"amd64\", \"os\": \"linux\"\x7d\x7d]\x7d" }
  | "http://[::1]:5000/v2/team/app/manifests/sha256:c" => {
      status := 200
      body := "\x7b\"config\": \x7b\"digest\": \"sha256:d\"\x7d\x7d" }
  | "http://[::1]:5000/v2/team/app/blobs/sha256:d" => {
      status := 200
      body := "\x7b\"config\": \x7b\"Env\": [\"A=1\"]\x7d\x7d" }
  | "http://[::1]:5001/token?service=registry" => {
      status := 200
      body := "\x7b\"token\": \"t1\"\x7d" }
  | _ => { status := 404 }

/-- Wants a token for everything that a registry on this machine has. -/
def tokenWanted : Guard where
  covers url := url != "http://[::1]:5001/token?service=registry"
  refusal _ :=
    { status := 401
      headers := [("www-authenticate",
        "Bearer realm=\"http://[::1]:5001/token\",service=\"registry\"")] }
  accepts := (· == "t1")

/-- The entry for the platform is taken from behind a guard on every document. -/
theorem fetchImage_guarded_of_two_platforms :
    tokenWanted.Anonymous twoPlatforms ∧
      (fetchImage ⟨"http://[::1]:5000", "[::1]:5000"⟩ (.guarded twoPlatforms tokenWanted)
          "team/app" "1").run =
        .ok (some { digest := some "sha256:c", settings := { env := ["A=1"] } }) ∧
      (fetchImage ⟨"http://[::1]:5000", "[::1]:5000"⟩ (.openly twoPlatforms) "team/app" "1").run =
        .ok (some { digest := some "sha256:c", settings := { env := ["A=1"] } }) := by
  have hask : (tokenUrl ⟨"http://[::1]:5001/token", some "registry", none⟩).toOption =
      some {
        scheme := "http", hierarchical := true, host := some (.ipv6 [0, 0, 0, 0, 0, 0, 0, 1])
        port := some 5001, path := "/token", query := some "service=registry" } := by
    decide +kernel
  have anonymous : tokenWanted.Anonymous twoPlatforms := fun url _ =>
    ⟨_, _, "t1", {
      challenge_eq := (by decide +kernel : challenge? (tokenWanted.refusal "") = some
        ⟨"http://[::1]:5001/token", some "registry", none⟩)
      address_eq := eq_ok_of_toOption hask
      askable := by decide +kernel
      uncovered := by decide +kernel
      fulfilled := by decide +kernel
      token_eq := eq_ok_of_toOption (by decide +kernel)
      sendable := by decide +kernel
      accepted := by decide +kernel }⟩
  have himage : imageAt ⟨"http://[::1]:5000", "[::1]:5000"⟩ twoPlatforms "team/app" "1" =
      .ok (some { digest := some "sha256:c", settings := { env := ["A=1"] } }) :=
    eq_ok_of_toOption (by decide +kernel)
  have hguarded := (run_fetchImage anonymous "1").trans himage
  exact ⟨anonymous, hguarded, (fetchImage_guarded anonymous "1").1.symm.trans hguarded⟩

end RegistryServer

end DeployPlan
