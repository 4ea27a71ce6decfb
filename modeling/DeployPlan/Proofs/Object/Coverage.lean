import DeployPlan.Proofs.Object.Services
import Mathlib.Data.List.Induction
import Mathlib.Data.List.Nodup

/-!
# What the added services cover

Each port that an object declares is a `Demand` for a service, and `addServices` goes through the
demands of all objects in their order (`serveObjects_eq`). `Meets` says what services do for some
demands beside the objects that are there, `Tracks` that the signatures and names that are known are
those of the services so far. Together they are kept from one demand to the next (`Meets.step`), and
`addServices_meets` is what they come to when all demands have been gone through.
-/

namespace DeployPlan

/-- The name of a service, empty if it has none. -/
def Service.name (s : Service) : String :=
  s.metadata.name.getD ""

/-- One of the services among some objects covers a port and labels. -/
def Covers (os : List Object) (signature : Signature) : Prop :=
  ∃ s, .service s ∈ os ∧ signature ∈ s.signatures

/-- One of the services among some objects has a name. -/
def Named (os : List Object) (name : String) : Prop :=
  ∃ s, .service s ∈ os ∧ s.name = name

/-- One of the services among some objects has a name and does not cover a port and labels. -/
def Clashes (os : List Object) (name : String) (signature : Signature) : Prop :=
  ∃ s, .service s ∈ os ∧ s.name = name ∧ signature ∉ s.signatures

/-- Some services differ from each other and from the services among some objects. -/
structure Fresh (os : List Object) (services : List Service) : Prop where
  /-- No two of them cover the same. -/
  signatures_nodup : (services.flatMap Service.signatures).Nodup
  /-- None of them covers what is covered already. -/
  signatures_new : ∀ s ∈ services, ∀ signature ∈ s.signatures, ¬ Covers os signature
  /-- No two of them have one name. -/
  names_nodup : (services.map Service.name).Nodup
  /-- None of them has the name of a service that is there already. -/
  names_new : ∀ s ∈ services, ¬ Named os s.name

/-- Some services are what is added to some objects, and are as they should be. -/
structure AddsServices (os : List Object) (services : List Service) : Prop
    extends Fresh os services where
  /-- They follow the objects, and nothing else does. -/
  result : addServices os = os ++ services.map .service
  /-- Each of them leads to a port that an object declares for its pods. It bears the name of the
  object with the port after it, or, for the first port, the name of the object. -/
  origin : ∀ s ∈ services, ∃ o ∈ os, ∃ port ∈ o.containerPorts, ∃ selector,
    o.selector? = some selector ∧ ∃ name,
      (name = portName o.name port ∨ name = o.name ∧ o.containerPorts.head? = some port) ∧
      s = .forward name port selector
  /-- Each port that an object declares for its pods is covered in the end, unless services that do
  not cover it have all the names that are meant for it. -/
  coverage : ∀ o ∈ os, ∀ selector, o.selector? = some selector → ∀ port ∈ o.containerPorts,
    Covers (addServices os) (port, selector) ∨
      Clashes (addServices os) (portName o.name port) (port, selector) ∧
        (o.containerPorts.head? = some port →
          Clashes (addServices os) o.name (port, selector))

/-! ## Demands -/

/-- A port that an object declares for its pods. -/
structure Demand where
  /-- The name of the object. -/
  name : String
  /-- The labels of the pods. -/
  selector : StringMap String
  /-- Whether the port is the first one of the object. -/
  first : Bool
  port : Int

namespace Demand

/-- What a service has to cover to meet the demand. -/
def signature (d : Demand) : Signature :=
  (d.port, d.selector)

/-- The names for a service that meets the demand, best one first. -/
def names (d : Demand) : List String :=
  Coverage.candidates d.name d.first d.port

def service (d : Demand) (name : String) : Service :=
  .forward name d.port d.selector

theorem mem_names_iff {d : Demand} {name : String} :
    name ∈ d.names ↔ name = portName d.name d.port ∨ name = d.name ∧ d.first = true := by
  rw [names, Coverage.candidates]
  cases d.first <;> simp [or_comm]

@[simp] theorem signatures_service (d : Demand) (name : String) :
    (d.service name).signatures = [d.signature] := rfl

@[simp] theorem name_service (d : Demand) (name : String) : (d.service name).name = name := rfl

end Demand

/-- The demands for some ports of an object; `first` tells whether the object's first port is among
them. -/
def demandsOf (name : String) (selector : StringMap String) (first : Bool) : List Int → List Demand
  | [] => []
  | port :: ports => ⟨name, selector, first, port⟩ :: demandsOf name selector false ports

/-- The demands of an object. -/
def Object.demands (o : Object) : List Demand :=
  match o.selector? with
  | none => []
  | some selector => demandsOf o.name selector true o.containerPorts

section Demands

variable {name : String} {selector : StringMap String} {first : Bool} {ports : List Int}
  {port : Int} {d : Demand} {o : Object}

theorem of_mem_demandsOf (h : d ∈ demandsOf name selector first ports) :
    d.name = name ∧ d.selector = selector ∧ d.port ∈ ports := by
  induction ports generalizing first with
  | nil => cases h
  | cons port ports ih =>
    rcases List.mem_cons.mp h with rfl | h
    · exact ⟨rfl, rfl, List.mem_cons_self⟩
    · obtain ⟨hn, hs, hp⟩ := ih h
      exact ⟨hn, hs, List.mem_cons_of_mem _ hp⟩

theorem first_of_mem_demandsOf_false (h : d ∈ demandsOf name selector false ports) :
    d.first = false := by
  induction ports with
  | nil => cases h
  | cons port ports ih =>
    rcases List.mem_cons.mp h with rfl | h
    · rfl
    · exact ih h

theorem head_of_mem_demandsOf (h : d ∈ demandsOf name selector first ports) (hd : d.first = true) :
    ports.head? = some d.port := by
  cases ports with
  | nil => cases h
  | cons port ports =>
    rcases List.mem_cons.mp h with rfl | h
    · rfl
    · rw [first_of_mem_demandsOf_false h] at hd
      cases hd

/-- Each port has a demand, and the first port has the first one. -/
theorem exists_mem_demandsOf (h : port ∈ ports) :
    ∃ d ∈ demandsOf name selector first ports, d.name = name ∧ d.selector = selector ∧
      d.port = port ∧ (ports.head? = some port → d.first = first) := by
  induction ports generalizing first with
  | nil => cases h
  | cons head ports ih =>
    by_cases hp : head = port
    · exact ⟨⟨name, selector, first, head⟩, List.mem_cons_self, rfl, rfl, hp, fun _ => rfl⟩
    · have hm : port ∈ ports := (List.mem_cons.mp h).resolve_left (Ne.symm hp)
      obtain ⟨d, hd, hn, hs, hport, -⟩ := ih hm
      refine ⟨d, List.mem_cons_of_mem _ hd, hn, hs, hport, fun hh => ?_⟩
      exact absurd (Option.some.inj hh) hp

theorem mem_demands (ho : o.selector? = some selector) :
    d ∈ o.demands ↔ d ∈ demandsOf o.name selector true o.containerPorts := by
  rw [Object.demands, ho]

/-- A demand of an object is for one of its ports, and for the first one if it says so. -/
theorem of_mem_demands (h : d ∈ o.demands) :
    d.name = o.name ∧ o.selector? = some d.selector ∧ d.port ∈ o.containerPorts ∧
      (d.first = true → o.containerPorts.head? = some d.port) := by
  cases ho : o.selector? with
  | none =>
    rw [Object.demands, ho] at h
    cases h
  | some selector =>
    have hd := (mem_demands ho).mp h
    obtain ⟨hn, hs, hp⟩ := of_mem_demandsOf hd
    exact ⟨hn, congrArg some hs.symm, hp, head_of_mem_demandsOf hd⟩

end Demands

/-! ## Meeting demands -/

namespace Coverage

/-- The coverage with a demand met, unless it is already or has no name left. -/
def meet (c : Coverage) (d : Demand) : Coverage :=
  c.serve d.name d.selector d.first d.port

def add (c : Coverage) (d : Demand) (name : String) : Coverage where
  covered := d.signature :: c.covered
  taken := name :: c.taken
  added := d.service name :: c.added

/-- Either a demand is met already, or all its names are taken, or it gets a service. -/
theorem meet_cases (c : Coverage) (d : Demand) :
    (d.signature ∈ c.covered ∧ c.meet d = c) ∨
    (d.signature ∉ c.covered ∧ (∀ name ∈ d.names, name ∈ c.taken) ∧ c.meet d = c) ∨
    (d.signature ∉ c.covered ∧ ∃ name ∈ d.names, name ∉ c.taken ∧ c.meet d = c.add d name) := by
  by_cases hc : d.signature ∈ c.covered
  · refine .inl ⟨hc, ?_⟩
    have hy : c.covered.contains (d.port, d.selector) = true := List.contains_iff_mem.mpr hc
    rw [meet, serve, if_pos hy]
  · cases hf : (candidates d.name d.first d.port).find? (!c.taken.contains ·) with
    | none =>
      refine .inr (.inl ⟨hc, fun name hn => ?_, ?_⟩)
      · simpa using List.find?_eq_none.mp hf name hn
      · have hn : c.covered.contains (d.port, d.selector) = false :=
          Bool.eq_false_iff.mpr fun hy => hc (List.contains_iff_mem.mp hy)
        rw [meet, serve, hn, hf]
        rfl
    | some free =>
      refine .inr (.inr ⟨hc, free, List.mem_of_find?_eq_some hf, ?_, serve_eq hc hf⟩)
      simpa using List.find?_some hf

theorem serveAll_eq (name : String) (selector : StringMap String) (first : Bool) (ports : List Int)
    (c : Coverage) :
    c.serveAll name selector first ports = (demandsOf name selector first ports).foldl meet c := by
  induction ports generalizing first c with
  | nil => rfl
  | cons port ports ih => exact ih false _

theorem serveObject_eq (c : Coverage) (o : Object) : c.serveObject o = o.demands.foldl meet c := by
  rw [serveObject, Object.demands]
  by_cases hs : o.isService = true
  · have hports : o.containerPorts = [] := by
      cases o with
      | service => rfl
      | buildConfig => rfl
      | imageRepository => rfl
      | deploymentConfig => cases hs
    rw [if_pos hs, hports]
    cases o.selector? <;> rfl
  · rw [if_neg hs]
    cases o.selector? with
    | none => rfl
    | some selector => exact serveAll_eq _ _ _ _ _

/-- The ports of some objects are served by meeting their demands one after another. -/
theorem serveObjects_eq (os : List Object) (c : Coverage) :
    os.foldl serveObject c = (os.flatMap Object.demands).foldl meet c := by
  rw [List.foldl_flatMap]
  congr 1
  funext c o
  exact serveObject_eq c o

end Coverage

/-! ## The services among some objects -/

section Services

variable {os os' : List Object} {name : String} {signature : Signature} {s : Service}
  {d : Demand} {ds : List Demand} {services : List Service} {c : Coverage}

theorem Covers.append (h : Covers os signature) : Covers (os ++ os') signature := by
  obtain ⟨s, hs, hc⟩ := h
  exact ⟨s, List.mem_append_left _ hs, hc⟩

theorem Named.append (h : Named os name) : Named (os ++ os') name := by
  obtain ⟨s, hs, hn⟩ := h
  exact ⟨s, List.mem_append_left _ hs, hn⟩

theorem Clashes.append (h : Clashes os name signature) : Clashes (os ++ os') name signature := by
  obtain ⟨s, hs, hn, hc⟩ := h
  exact ⟨s, List.mem_append_left _ hs, hn, hc⟩

theorem covers_concat_iff :
    Covers (os ++ [.service s]) signature ↔ signature ∈ s.signatures ∨ Covers os signature := by
  simp [Covers, or_and_right, exists_or, or_comm]

theorem named_concat_iff :
    Named (os ++ [.service s]) name ↔ s.name = name ∨ Named os name := by
  simp [Named, or_and_right, exists_or, or_comm]

theorem Named.clashes (h : Named os name) (hc : ¬ Covers os signature) :
    Clashes os name signature := by
  obtain ⟨s, hs, hn⟩ := h
  exact ⟨s, hs, hn, fun hm => hc ⟨s, hs, hm⟩⟩

theorem Fresh.nil (os : List Object) : Fresh os [] where
  signatures_nodup := List.nodup_nil
  signatures_new _ hs := absurd hs List.not_mem_nil
  names_nodup := List.nodup_nil
  names_new _ hs := absurd hs List.not_mem_nil

/-- A service that covers what nothing covers and has a name that nothing has is one more. -/
theorem Fresh.concat (h : Fresh os services)
    (hc : ¬ Covers (os ++ services.map .service) d.signature)
    (hn : ¬ Named (os ++ services.map .service) name) :
    Fresh os (services ++ [d.service name]) where
  signatures_nodup := by
    rw [List.flatMap_append, List.flatMap_singleton, Demand.signatures_service,
      ← List.concat_eq_append]
    refine List.Nodup.concat (fun hm => ?_) h.signatures_nodup
    obtain ⟨s, hs, hm⟩ := List.mem_flatMap.mp hm
    exact hc ⟨s, List.mem_append_right _ (List.mem_map_of_mem hs), hm⟩
  signatures_new s hs signature hm := by
    rcases List.mem_append.mp hs with hs | hs
    · exact h.signatures_new s hs signature hm
    · rw [List.mem_singleton.mp hs, Demand.signatures_service] at hm
      rw [List.mem_singleton.mp hm]
      exact fun hcov => hc hcov.append
  names_nodup := by
    rw [List.map_append, List.map_singleton, Demand.name_service, ← List.concat_eq_append]
    refine List.Nodup.concat (fun hm => ?_) h.names_nodup
    obtain ⟨s, hs, hname⟩ := List.mem_map.mp hm
    exact hn ⟨s, List.mem_append_right _ (List.mem_map_of_mem hs), hname⟩
  names_new s hs := by
    rcases List.mem_append.mp hs with hs | hs
    · exact h.names_new s hs
    · rw [List.mem_singleton.mp hs, Demand.name_service]
      exact fun hnamed => hn hnamed.append

/-! ## From one demand to the next -/

/-- What some services do for demands beside some objects. -/
structure Meets (os : List Object) (ds : List Demand) (services : List Service) : Prop
    extends Fresh os services where
  origin : ∀ s ∈ services, ∃ d ∈ ds, ∃ name ∈ d.names, s = d.service name
  settled : ∀ d ∈ ds, Covers (os ++ services.map .service) d.signature ∨
    ∀ name ∈ d.names, Clashes (os ++ services.map .service) name d.signature

/-- The signatures and names that are known are those of the services so far. -/
structure Tracks (os : List Object) (c : Coverage) : Prop where
  covered : ∀ signature, signature ∈ c.covered ↔ Covers os signature
  taken : ∀ name, name ∈ c.taken ↔ Named os name

namespace Tracks

theorem ofObjects (os : List Object) : Tracks os (.ofObjects os) where
  covered signature := by
    simp only [Coverage.ofObjects, List.mem_flatMap, Covers]
    constructor
    · rintro ⟨o, ho, hs⟩
      cases o with
      | service s => exact ⟨s, ho, hs⟩
      | buildConfig => cases hs
      | deploymentConfig => cases hs
      | imageRepository => cases hs
    · rintro ⟨s, hs, hc⟩
      exact ⟨.service s, hs, hc⟩
  taken name := by
    simp only [Coverage.ofObjects, List.mem_map, List.mem_filter, Named]
    constructor
    · rintro ⟨o, ⟨ho, hs⟩, hn⟩
      cases o with
      | service s => exact ⟨s, ho, hn⟩
      | buildConfig => cases hs
      | deploymentConfig => cases hs
      | imageRepository => cases hs
    · rintro ⟨s, hs, hn⟩
      exact ⟨.service s, ⟨hs, rfl⟩, hn⟩

theorem add (h : Tracks os c) (d : Demand) (name : String) :
    Tracks (os ++ [.service (d.service name)]) (c.add d name) where
  covered signature := by
    rw [covers_concat_iff, ← h.covered, Demand.signatures_service, List.mem_singleton]
    exact List.mem_cons
  taken name' := by
    rw [named_concat_iff, ← h.taken, Demand.name_service, eq_comm]
    exact List.mem_cons

end Tracks

namespace Meets

theorem nil (os : List Object) : Meets os [] [] where
  toFresh := .nil os
  origin _ hs := absurd hs List.not_mem_nil
  settled _ hd := absurd hd List.not_mem_nil

/-- A demand that is met, or has no name left, needs no further service. -/
theorem keep (h : Meets os ds services)
    (hd : Covers (os ++ services.map .service) d.signature ∨
      ∀ name ∈ d.names, Clashes (os ++ services.map .service) name d.signature) :
    Meets os (ds ++ [d]) services where
  toFresh := h.toFresh
  origin s hs := by
    obtain ⟨d', hd', hn⟩ := h.origin s hs
    exact ⟨d', List.mem_append_left _ hd', hn⟩
  settled d' hd' := by
    rcases List.mem_append.mp hd' with hd' | hd'
    · exact h.settled d' hd'
    · rw [List.mem_singleton.mp hd']
      exact hd

/-- A demand that is not met gets a service by a name that no service has. -/
theorem add (h : Meets os ds services) (hn : name ∈ d.names)
    (hc : ¬ Covers (os ++ services.map .service) d.signature)
    (hfree : ¬ Named (os ++ services.map .service) name) :
    Meets os (ds ++ [d]) (services ++ [d.service name]) where
  toFresh := h.toFresh.concat hc hfree
  origin s hs := by
    rcases List.mem_append.mp hs with hs | hs
    · obtain ⟨d', hd', hn'⟩ := h.origin s hs
      exact ⟨d', List.mem_append_left _ hd', hn'⟩
    · exact ⟨d, List.mem_append_right _ List.mem_cons_self, name, hn, List.mem_singleton.mp hs⟩
  settled d' hd' := by
    rw [List.map_append, ← List.append_assoc]
    rcases List.mem_append.mp hd' with hd' | hd'
    · exact (h.settled d' hd').imp (·.append) fun hclash name hn => (hclash name hn).append
    · rw [List.mem_singleton.mp hd']
      exact .inl (covers_concat_iff.mpr (.inl List.mem_cons_self))

/-- One demand keeps what is known in agreement with the services, and is settled after it. -/
theorem step (h : Meets os ds c.added.reverse)
    (ht : Tracks (os ++ c.added.reverse.map .service) c) (d : Demand) :
    Meets os (ds ++ [d]) (c.meet d).added.reverse ∧
      Tracks (os ++ (c.meet d).added.reverse.map .service) (c.meet d) := by
  rcases c.meet_cases d with ⟨hc, he⟩ | ⟨hc, hn, he⟩ | ⟨hc, name, hn, hfree, he⟩
  · rw [he]
    exact ⟨h.keep (.inl ((ht.covered _).mp hc)), ht⟩
  · rw [he]
    rw [ht.covered] at hc
    exact ⟨h.keep (.inr fun name hm => ((ht.taken _).mp (hn name hm)).clashes hc), ht⟩
  · rw [ht.covered] at hc
    rw [ht.taken] at hfree
    have hadd : (c.add d name).added.reverse = c.added.reverse ++ [d.service name] :=
      List.reverse_cons
    rw [he, hadd, List.map_append, ← List.append_assoc]
    exact ⟨h.add hn hc hfree, ht.add d name⟩

/-- All demands are settled when they have been gone through. -/
theorem run (os : List Object) (ds : List Demand) :
    Meets os ds (ds.foldl Coverage.meet (.ofObjects os)).added.reverse ∧
      Tracks (os ++ (ds.foldl Coverage.meet (.ofObjects os)).added.reverse.map .service)
        (ds.foldl Coverage.meet (.ofObjects os)) := by
  induction ds using List.reverseRecOn with
  | nil =>
    refine ⟨nil os, ?_⟩
    show Tracks (os ++ []) _
    rw [List.append_nil]
    exact Tracks.ofObjects os
  | append_singleton ds d ih =>
    rw [List.foldl_append, List.foldl_cons, List.foldl_nil]
    exact ih.1.step ih.2 d

end Meets

/-! ## All objects -/

/-- The services that are added to a list of objects: they follow the objects, differ in what they
cover and in their names from each other and from the services that are there, belong to ports that
objects declare, and leave no port uncovered that has a name left. -/
theorem addServices_meets (os : List Object) : ∃ services, AddsServices os services := by
  have h := (Meets.run os (os.flatMap Object.demands)).1
  rw [← Coverage.serveObjects_eq] at h
  refine ⟨_, h.toFresh, rfl, ?_, ?_⟩
  · intro s hs
    obtain ⟨d, hd, name, hn, rfl⟩ := h.origin s hs
    obtain ⟨o, ho, hd⟩ := List.mem_flatMap.mp hd
    obtain ⟨hname, hsel, hport, hfirst⟩ := of_mem_demands hd
    refine ⟨o, ho, d.port, hport, d.selector, hsel, name, ?_, rfl⟩
    rw [← hname]
    exact (Demand.mem_names_iff.mp hn).imp_right fun ⟨he, hf⟩ => ⟨he, hfirst hf⟩
  · intro o ho selector hsel port hport
    obtain ⟨d, hd, hname, rfl, rfl, hfirst⟩ :=
      @exists_mem_demandsOf o.name selector true o.containerPorts port hport
    have hmem : d ∈ os.flatMap Object.demands :=
      List.mem_flatMap.mpr ⟨o, ho, (mem_demands hsel).mpr hd⟩
    rw [← hname]
    refine (h.settled d hmem).imp_right fun hclash => ⟨?_, fun hh => ?_⟩
    · exact hclash _ (Demand.mem_names_iff.mpr (.inl rfl))
    · exact hclash _ (Demand.mem_names_iff.mpr (.inr ⟨rfl, hfirst hh⟩))

end Services

end DeployPlan
