import DeployPlan.Proofs.Object.Coverage

/-!
# Services are added once

A demand is `Settled` among some objects if it needs no further service there: it is covered, or
services that do not cover it have all its names. `addServices` leaves a list as it is if and only
if all its demands are settled (`addServices_eq_self_iff`). It settles all demands of a list, and
services make no demands of their own, so that a second time adds nothing
(`addServices_addServices`).
-/

namespace DeployPlan

variable {os : List Object} {c : Coverage} {d : Demand} {ds : List Demand}

/-- A demand needs no further service: one of the services covers it, or services that do not cover
it have all its names. -/
def Settled (os : List Object) (d : Demand) : Prop :=
  Covers os d.signature ∨ ∀ name ∈ d.names, Clashes os name d.signature

theorem Clashes.named {name : String} {signature : Signature} (h : Clashes os name signature) :
    Named os name := by
  obtain ⟨s, hs, hn, -⟩ := h
  exact ⟨s, hs, hn⟩

theorem Tracks.meet_eq_self (ht : Tracks os c) (hd : Settled os d) : c.meet d = c := by
  rcases c.meet_cases d with ⟨-, he⟩ | ⟨-, -, he⟩ | ⟨hc, name, hn, hfree, -⟩
  · exact he
  · exact he
  · rw [ht.covered] at hc
    rw [ht.taken] at hfree
    exact absurd (hd.resolve_left hc name hn).named hfree

theorem Tracks.foldl_meet_eq_self (ht : Tracks os c) (hs : ∀ d ∈ ds, Settled os d) :
    ds.foldl Coverage.meet c = c := by
  induction ds with
  | nil => rfl
  | cons d ds ih =>
    rw [List.foldl_cons, ht.meet_eq_self (hs d List.mem_cons_self)]
    exact ih fun d hd => hs d (List.mem_cons_of_mem _ hd)

theorem demands_service (s : Service) : (Object.service s).demands = [] := by
  rw [Object.demands]
  cases (Object.service s).selector? <;> rfl

theorem flatMap_demands_append_services (os : List Object) (services : List Service) :
    (os ++ services.map Object.service).flatMap Object.demands = os.flatMap Object.demands := by
  have hs : (services.map Object.service).flatMap Object.demands = [] := by
    refine List.flatMap_eq_nil_iff.mpr fun o ho => ?_
    obtain ⟨s, -, rfl⟩ := List.mem_map.mp ho
    exact demands_service s
  rw [List.flatMap_append, hs, List.append_nil]

theorem settled_addServices (os : List Object) :
    ∀ d ∈ (addServices os).flatMap Object.demands, Settled (addServices os) d := by
  have h := (Meets.run os (os.flatMap Object.demands)).1
  rw [← Coverage.serveObjects_eq] at h
  intro d hd
  rw [addServices, flatMap_demands_append_services] at hd
  exact h.settled d hd

/-- Nothing is added to a list if and only if all its demands are settled. -/
theorem addServices_eq_self_iff :
    addServices os = os ↔ ∀ d ∈ os.flatMap Object.demands, Settled os d := by
  constructor
  · intro h
    have hs := settled_addServices os
    rwa [h] at hs
  · intro hs
    have he : os.foldl Coverage.serveObject (.ofObjects os) = .ofObjects os := by
      rw [Coverage.serveObjects_eq]
      exact (Tracks.ofObjects os).foldl_meet_eq_self hs
    rw [addServices, he]
    exact List.append_nil os

/-- Services that have been added to a list are added to it once: a second time, every demand is
covered, or has the names for its services taken as before. -/
theorem addServices_addServices (os : List Object) :
    addServices (addServices os) = addServices os :=
  addServices_eq_self_iff.mpr (settled_addServices os)

end DeployPlan
