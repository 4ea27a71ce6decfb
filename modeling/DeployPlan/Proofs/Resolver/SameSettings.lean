import DeployPlan.Proofs.Encoding.Settings
import DeployPlan.Proofs.Resolver.PullSpec
import DeployPlan.Resolver.Cluster
import DeployPlan.Resolver.Docker

/-!
# One image in three places

The local runtime, a registry and the platform each describe an image in documents of their own, in
which the settings of its containers stand in one form. For each of them `Presents` says that its
answers lead to settings in that form; then the image is found, and carries the settings
(`docker_carries`, `registry_carries`, `find_carries`). So it does not matter for the settings where
an image is found: `sameSettings_of_presents`.
-/

namespace DeployPlan

variable {σ : Type} {recorded : RecordedSettings}

/-- A document of a shape is read from the body that writes it. -/
theorem HttpResponse.decode_of_parse {α : Type} {answer : HttpResponse} {shape : Json.Shape}
    {read : Json → Option α} {j : Json} {a : α} (hj : shape.parse answer.body = .ok j)
    (ha : read j = some a) : answer.decode shape read = .ok a := by
  simp only [decode, hj, Except.toOption, Option.bind_some, ha]

/-! ## The local runtime -/

namespace LocalRuntime

/-- The daemon describes the image with these settings. -/
inductive Presents (daemon : HttpClient (StateM σ)) (s : σ) (image : String)
    (recorded : RecordedSettings) : Prop
  | intro {answer : HttpResponse} {t : σ} {description config : Json} {id : Option String}
      {id? : Option Json}
      (hanswer : (daemon.get { url := inspectPath image }).run s = (.ok answer, t))
      (hsuccess : answer.isSuccess = true)
      (hbody : Encoding.imageDescriptionShape.parse answer.body = .ok description)
      (hid : description.HasMember "Id" id?) (pid : Json.HasPart (fun id v => v = .str id) id id?)
      (hconfig : description.HasMember "Config" (some config))
      (hwritten : recorded.WrittenAs config) :
    Presents daemon s image recorded

/-- A description is read if its id and its settings are in order. -/
theorem imageDescription?_eq_some {description config : Json} {id : Option String}
    {id? : Option Json} (hid : description.HasMember "Id" id?)
    (pid : Json.HasPart (fun id v => v = .str id) id id?)
    (hconfig : description.HasMember "Config" (some config))
    (hwritten : recorded.WrittenAs config) :
    ∃ found settings, Encoding.imageDescription? description = some (found, settings) ∧
      settings.Alike recorded.settings := by
  have hmembers : ∀ name ∈ ["Id", "Config"], ∃ v?, description.HasMember name v? := by
    simp only [List.forall_mem_cons]
    exact ⟨⟨_, hid⟩, ⟨_, hconfig⟩, List.forall_mem_nil _⟩
  obtain ⟨record, hrecord, hget⟩ := Json.Record.of?_of_hasMember (List.cons_ne_nil _ _) hmembers
  have hstr (id : String) (v : Json) (h : v = .str id) :
      v ≠ .null ∧ ∃ text, v.str? = some text ∧ id = text := by
    subst h
    exact ⟨Json.noConfusion, id, rfl, rfl⟩
  obtain ⟨found, hfound, -⟩ :=
    Json.Record.optional_of_hasPart hstr (hget "Id" (by simp) _ hid) pid
  obtain ⟨settings?, hsettings, halike⟩ := Json.Record.optional_of_hasPart
    Encoding.containerSettings?_of_writtenAs (hget "Config" (by simp) _ hconfig) (.there hwritten)
  cases halike with
  | @some _ settings halike =>
    refine ⟨found, settings, ?_, halike⟩
    simp only [Encoding.imageDescription?, hrecord, hfound, hsettings, bind, Option.bind, pure,
      Option.getD_some]

theorem readAnswer_eq_ok {image : String} {answer : HttpResponse} {description : Json}
    {found : Option String × ContainerSettings} (hsuccess : answer.isSuccess = true)
    (hbody : Encoding.imageDescriptionShape.parse answer.body = .ok description)
    (hread : Encoding.imageDescription? description = some found) :
    readAnswer image (.ok answer) = .ok found := by
  rw [readAnswer, if_pos (.inl hsuccess), HttpResponse.decode_of_parse hbody hread]
  rfl

end LocalRuntime

/-- An image that the daemon describes is found with its settings. -/
theorem Resolver.docker_carries {daemon : HttpClient (StateM σ)} {s : σ} {text : String}
    {name : ImageName} (hp : ImageName.parse text = .ok name)
    (h : LocalRuntime.Presents daemon s text recorded) :
    ∃ image, (runFrom ((docker daemon).resolve text) s).1 = .ok image ∧
      image.Carries recorded.settings := by
  obtain ⟨hanswer, hsuccess, hbody, hid, pid, hconfig, hwritten⟩ := h
  obtain ⟨found, settings, hread, halike⟩ :=
    LocalRuntime.imageDescription?_eq_some hid pid hconfig hwritten
  refine ⟨_, ?_, Image.carries_ofSettings halike name .localRuntime found⟩
  have hrun : runFrom ((docker daemon).resolve text) s =
      (.ok (.ofSettings name .localRuntime found settings), _) :=
    (runFrom_bindExcept hp).trans <| (runFrom_bindState hanswer).trans <|
      runFrom_bindExcept (LocalRuntime.readAnswer_eq_ok hsuccess hbody hread)
  exact congrArg Prod.fst hrun

/-! ## A registry -/

namespace RegistryServer

variable (server : RegistryServer) (http : HttpClient (StateM σ))

/-- A manifest leads to a document with these settings. -/
inductive LeadsTo (s : σ) (token : Option String) (repository : String) (manifest : Manifest)
    (recorded : RecordedSettings) : Prop
  | intro {digest : String} {answer : HttpResponse} {used : Option String} {t : σ}
      {document config : Json} (hdigest : manifest.config = some digest)
      (hanswer : runFrom (server.send http token (server.blobUrl repository digest) none) s =
        (.ok (answer, used), t))
      (hsuccess : answer.isError = false)
      (hbody : Encoding.imageSettingsShape.parse answer.body = .ok document)
      (hconfig : document.HasMember "config" (some config))
      (hwritten : recorded.WrittenAs config) :
    LeadsTo s token repository manifest recorded

/-- The registry has the image with these settings, in one manifest or in the one for its
platform. -/
inductive Presents (s : σ) (repository reference : String) (recorded : RecordedSettings) : Prop
  | single {digest token : Option String} {manifest : Manifest} {t : σ}
      (hmanifest : runFrom (server.fetchManifest http none repository reference) s =
        (.ok (some (digest, manifest), token), t))
      (he : manifest.entries = none)
      (hleads : server.LeadsTo http t token repository manifest recorded) :
    Presents s repository reference recorded
  | platform {digest token : Option String} {manifest : Manifest} {t : σ}
      {entries : List PlatformEntry} {chosen : String} {digest' token' : Option String}
      {manifest' : Manifest} {t' : σ}
      (hmanifest : runFrom (server.fetchManifest http none repository reference) s =
        (.ok (some (digest, manifest), token), t))
      (he : manifest.entries = some entries) (hc : PlatformEntry.choose entries = some chosen)
      (hplatform : runFrom (server.fetchManifest http token repository chosen) t =
        (.ok (some (digest', manifest'), token'), t'))
      (hleads : server.LeadsTo http t' token' repository manifest' recorded) :
    Presents s repository reference recorded

variable {server http}

theorem imageSettings?_eq_some {document config : Json}
    (hconfig : document.HasMember "config" (some config)) (hwritten : recorded.WrittenAs config) :
    ∃ settings, Encoding.imageSettings? document = some settings ∧
      settings.Alike recorded.settings := by
  obtain ⟨-, settings, hsettings, halike⟩ :=
    Encoding.containerSettings?_of_writtenAs recorded config hwritten
  have hmembers : ∀ name ∈ ["config"], ∃ v?, document.HasMember name v? := by
    simp only [List.forall_mem_cons]
    exact ⟨⟨_, hconfig⟩, List.forall_mem_nil _⟩
  obtain ⟨record, hrecord, hget⟩ := Json.Record.of?_of_hasMember (List.cons_ne_nil _ _) hmembers
  refine ⟨settings, ?_, halike⟩
  simp only [Encoding.imageSettings?, hrecord, bind, Option.bind, Json.Record.orElse,
    hget "config" (by simp) _ hconfig, hsettings]

/-- The settings to which a manifest leads are read. -/
theorem runFrom_fetchSettings {s : σ} {token : Option String} {repository : String}
    {manifest : Manifest} (h : server.LeadsTo http s token repository manifest recorded)
    (digest : Option String) : ∃ settings t,
      runFrom (server.fetchSettings http token repository digest manifest) s =
        (.ok { digest, settings }, t) ∧
      settings.Alike recorded.settings := by
  obtain @⟨_, answer, _, t, _, _, hdigest, hanswer, hsuccess, hbody, hconfig, hwritten⟩ := h
  obtain ⟨settings, hsettings, halike⟩ := imageSettings?_eq_some hconfig hwritten
  have hread (url : String) : server.readSettings url answer = .ok settings := by
    rw [readSettings, hsuccess, if_neg Bool.false_ne_true,
      HttpResponse.decode_of_parse hbody hsettings]
    rfl
  refine ⟨settings, t, ?_, halike⟩
  simp only [fetchSettings, hdigest]
  exact (runFrom_bind_of_eq hanswer).trans (runFrom_bindExcept (hread _))

/-- An image that the registry has is fetched with its settings. -/
theorem runFrom_fetchImage {s : σ} {repository reference : String}
    (h : server.Presents http s repository reference recorded) : ∃ found t,
      runFrom (server.fetchImage http repository reference) s = (.ok (some found), t) ∧
      found.settings.Alike recorded.settings := by
  cases h with
  | @single digest _ _ _ hmanifest he hleads =>
    obtain ⟨settings, t, hrun, halike⟩ := runFrom_fetchSettings hleads digest
    refine ⟨⟨digest, settings⟩, t, ?_, halike⟩
    rw [fetchImage, runFrom_bind_of_eq hmanifest]
    simp only [he]
    exact runFrom_bind_of_eq hrun
  | @platform _ _ _ _ _ chosen _ _ _ _ hmanifest he hc hplatform hleads =>
    obtain ⟨settings, t, hrun, halike⟩ := runFrom_fetchSettings hleads (some chosen)
    refine ⟨⟨some chosen, settings⟩, t, ?_, halike⟩
    rw [fetchImage, runFrom_bind_of_eq hmanifest]
    simp only [he, hc]
    rw [runFrom_bind_of_eq hplatform]
    exact runFrom_bind_of_eq hrun

end RegistryServer

/-- An image that a registry has is found with its settings. -/
theorem Resolver.registry_carries {server : RegistryServer} {http : HttpClient (StateM σ)} {s : σ}
    {text : String} {name : ImageName} (hp : ImageName.parse text = .ok name)
    (hs : name.registry.any (!Registry.serves server.host ·) = false)
    (h : server.Presents http s (Registry.repositoryOf server.host name)
      (Registry.referenceOf name) recorded) :
    ∃ image, (runFrom ((registry (.overHttp http server)).resolve text) s).1 = .ok image ∧
      image.Carries recorded.settings := by
  obtain ⟨found, t, hrun, halike⟩ := RegistryServer.runFrom_fetchImage h
  refine ⟨_, ?_, Image.carries_ofSettings halike (Registry.answerName server.host name) .registry
    found.digest⟩
  rw [resolve_registry (.overHttp http server) hp hs]
  exact congrArg Prod.fst (runFrom_bind_of_eq hrun)

/-! ## The platform -/

namespace Cluster

/-- The platform has an image with these settings for the tag of a name. -/
inductive Presents (api : HttpClient (StateM σ)) (s : σ) (project : String) (asked : ImageName)
    (recorded : RecordedSettings) : Prop
  | intro {stream content config : Json} {t u : σ} {event : TagEvent} {id : String}
      (hstream : runFrom (fetch api (streamPath project asked.name) asked.name) s =
        (.ok (some stream), t))
      (hlatest : latest? stream asked.tagOrDefault = some event) (hid : event.image = some id)
      (hcontent : runFrom (fetch api (imagePath id) id) t = (.ok (some content), u))
      (hconfig : content.at? ["dockerImageMetadata", "Config"] = some config)
      (hwritten : recorded.WrittenAs config) :
    Presents api s project asked recorded

/-- An image that the platform has is found with its settings. -/
theorem find_carries {api : HttpClient (StateM σ)} {s : σ} {project : String} {asked : ImageName}
    (h : Presents api s project asked recorded) :
    ∃ image, (runFrom (find api project asked) s).1 = .ok (some image) ∧
      image.Carries recorded.settings := by
  obtain @⟨_, content, config, _, _, event, _, hstream, hlatest, hid, hcontent, hconfig,
    hwritten⟩ := h
  have hsettings : settingsOf (some content) = Encoding.looseSettings config := by
    rw [settingsOf, Option.bind_some, hconfig]
    rfl
  have halike : (settingsOf (some content)).Alike recorded.settings := by
    rw [hsettings]
    exact Encoding.looseSettings_of_writtenAs hwritten
  refine ⟨imageOf project asked event (some content), ?_, Image.carries_ofSettings halike _ _ _⟩
  rw [find, runFrom_bind_of_eq hstream]
  simp only [hlatest, hid]
  rw [runFrom_bind_of_eq hcontent]
  rfl

end Cluster

/-! ## All three -/

namespace Resolver

variable {τ υ : Type}

/-- If the local runtime, a registry and the platform describe images with the same settings, each
in its own documents, then all three images are found and have the same settings. -/
theorem sameSettings_of_presents {daemon : HttpClient (StateM σ)} {s : σ} {localText : String}
    {localName : ImageName} (hlocal : ImageName.parse localText = .ok localName)
    (hdaemon : LocalRuntime.Presents daemon s localText recorded)
    {http : HttpClient (StateM τ)} {server : RegistryServer} {t : τ} {text : String}
    {name : ImageName} (hname : ImageName.parse text = .ok name)
    (hserves : name.registry.any (!Registry.serves server.host ·) = false)
    (hserver : server.Presents http t (Registry.repositoryOf server.host name)
      (Registry.referenceOf name) recorded)
    {api : HttpClient (StateM υ)} {u : υ} {project : String} {asked : ImageName}
    (hcluster : Cluster.Presents api u project asked recorded) :
    ∃ a b c,
      (runFrom ((docker daemon).resolve localText) s).1 = .ok a ∧
      (runFrom ((registry (.overHttp http server)).resolve text) t).1 = .ok b ∧
      (runFrom (Cluster.find api project asked) u).1 = .ok (some c) ∧
      a.Carries recorded.settings ∧ a.SameSettings b ∧ a.SameSettings c := by
  obtain ⟨a, ha, hac⟩ := docker_carries hlocal hdaemon
  obtain ⟨b, hb, hbc⟩ := registry_carries hname hserves hserver
  obtain ⟨c, hc, hcc⟩ := Cluster.find_carries hcluster
  exact ⟨a, b, c, ha, hb, hc, hac, hac.sameSettings hbc, hac.sameSettings hcc⟩

/-- Two ports, an entry that sets no variable, a variable that is set twice, and a label. -/
def rubySettings : RecordedSettings where
  ports := some ["80/tcp", "53/udp"]
  env := some ["A=1", "B", "A=2"]
  labels := some (.ofList [("os", "no")])

def rubyConfig : Json :=
  .obj [
    ("Labels", .obj [("os", .str "no")]),
    ("Env", .arr [.str "A=1", .str "B", .str "A=2"]),
    ("ExposedPorts", .obj [("53/udp", .obj []), ("80/tcp", .obj [])])]

def rubyConfigText : String :=
  "\x7b\"Labels\": \x7b\"os\": \"no\"\x7d, " ++
  "\"Env\": [\"A=1\", \"B\", \"A=2\"], " ++
  "\"ExposedPorts\": \x7b\"53/udp\": \x7b\x7d, \"80/tcp\": \x7b\x7d\x7d\x7d"

theorem writtenAs_rubyConfig : rubySettings.WrittenAs rubyConfig where
  ports := ⟨some (.obj [("53/udp", .obj []), ("80/tcp", .obj [])]), ⟨_, rfl, by decide +kernel⟩,
    .there ⟨_, rfl, .swap ..⟩⟩
  env := ⟨some (.arr [.str "A=1", .str "B", .str "A=2"]), ⟨_, rfl, by decide +kernel⟩, .there rfl⟩
  labels := ⟨some (.obj [("os", .str "no")]), ⟨_, rfl, by decide +kernel⟩,
    .there ⟨[("os", "no")], rfl, .refl _⟩⟩

/-- A daemon that describes every image by these settings. -/
def rubyDaemon : HttpClient (StateM Unit) where
  get _ := pure (.ok { status := 200, body := "\x7b\"Config\": " ++ rubyConfigText ++ "\x7d" })

theorem presents_rubyDaemon : LocalRuntime.Presents rubyDaemon () "ruby" rubySettings := by
  have hbody : Encoding.imageDescriptionShape.parse
      ("\x7b\"Config\": " ++ rubyConfigText ++ "\x7d") = .ok (.obj [("Config", rubyConfig)]) :=
    eq_ok_of_toOption (by decide +kernel)
  exact .intro rfl rfl hbody ⟨_, rfl, rfl⟩ .missing ⟨_, rfl, rfl⟩ writtenAs_rubyConfig

/-- Answers of the hub: only a request for a manifest says which kinds are understood. -/
def rubyHub : HttpClient (StateM Unit) where
  get r :=
    let body :=
      if r.accept.isSome then "\x7b\"config\": \x7b\"digest\": \"sha256:abc\"\x7d\x7d"
      else "\x7b\"config\": " ++ rubyConfigText ++ "\x7d"
    pure (.ok { status := 200, body })

def hub : RegistryServer where
  base := "https://registry-1.docker.io"
  host := "registry-1.docker.io"

theorem presents_rubyHub :
    hub.Presents rubyHub () "library/ruby" "latest" rubySettings := by
  have hmanifest : runFrom (hub.fetchManifest rubyHub none "library/ruby" "latest") () =
      (.ok (some (none, { config := some "sha256:abc" }), none), ()) :=
    Prod.ext (eq_ok_of_toOption (by decide +kernel)) (Subsingleton.elim _ _)
  have hbody : Encoding.imageSettingsShape.parse
      ("\x7b\"config\": " ++ rubyConfigText ++ "\x7d") = .ok (.obj [("config", rubyConfig)]) :=
    eq_ok_of_toOption (by decide +kernel)
  have hleads : hub.LeadsTo rubyHub () none "library/ruby" { config := some "sha256:abc" }
      rubySettings :=
    .intro rfl rfl rfl hbody ⟨_, rfl, rfl⟩ writtenAs_rubyConfig
  exact .single hmanifest rfl hleads

def rubyCluster : HttpClient (StateM Unit) where
  get r :=
    let body :=
      if r.url = Cluster.imagePath "abc" then
        "\x7b\"dockerImageMetadata\": \x7b\"Config\": " ++ rubyConfigText ++ "\x7d\x7d"
      else
        "\x7b\"status\": \x7b\"tags\": [\x7b\"tag\": \"latest\", \"items\": " ++
          "[\x7b\"dockerImageReference\": \"openshift/ruby\", " ++
          "\"image\": \"abc\"\x7d]\x7d]\x7d\x7d"
    pure (.ok { status := 200, body })

/-- What is read from the stream. -/
def rubyStream : Json :=
  .obj [("status", .obj [("tags", .arr [.obj [("tag", .str "latest"),
    ("items", .arr [.obj [("dockerImageReference", .str "openshift/ruby"),
      ("image", .str "abc")]])]])])]

theorem presents_rubyCluster :
    Cluster.Presents rubyCluster () "openshift" { name := "ruby" } rubySettings := by
  have hstream : runFrom (Cluster.fetch rubyCluster (Cluster.streamPath "openshift" "ruby")
      "ruby") () = (.ok (some rubyStream), ()) :=
    Prod.ext (eq_ok_of_toOption (by decide +kernel)) (Subsingleton.elim _ _)
  have hlatest : Cluster.latest? rubyStream "latest" =
      some { reference := "openshift/ruby", image := some "abc" } := by
    decide +kernel
  have hcontent : runFrom (Cluster.fetch rubyCluster (Cluster.imagePath "abc") "abc") () =
      (.ok (some (.obj [("dockerImageMetadata", .obj [("Config", rubyConfig)])])), ()) :=
    Prod.ext (eq_ok_of_toOption (by decide +kernel)) (Subsingleton.elim _ _)
  exact .intro hstream hlatest rfl hcontent rfl writtenAs_rubyConfig

/-- An image that is described in three places has the same settings in all of them. -/
theorem sameSettings_ruby :
    ∃ a b c,
      (runFrom ((docker rubyDaemon).resolve "ruby") ()).1 = .ok a ∧
      (runFrom ((registry (.overHttp rubyHub hub)).resolve "ruby") ()).1 = .ok b ∧
      (runFrom (Cluster.find rubyCluster "openshift" { name := "ruby" }) ()).1 = .ok (some c) ∧
      a.Carries rubySettings.settings ∧ a.SameSettings b ∧ a.SameSettings c := by
  have hruby : ImageName.parse "ruby" = .ok { name := "ruby" } :=
    eq_ok_of_toOption (by decide +kernel)
  exact sameSettings_of_presents hruby presents_rubyDaemon hruby rfl presents_rubyHub
    presents_rubyCluster

end Resolver

end DeployPlan
