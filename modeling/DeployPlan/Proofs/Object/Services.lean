import DeployPlan.Object.Services

/-!
# The services of a deployment

The names with a port after them differ from the plain name and from each other
(`portName_ne`, `portName_injective`), so that in a list with one deployment each of its ports gets
a service: `addServices_deployment` says which services are added to such a list, and in which
order.
Nothing is added for objects that run no pods (`addServices_idle`).
-/

namespace DeployPlan

/-! ## Names with a port -/

theorem repr_nat_injective {m n : Nat} (h : m.repr = n.repr) : m = n := by
  have hd : Nat.toDigits 10 m = Nat.toDigits 10 n := by
    rw [← Nat.toList_repr, ← Nat.toList_repr, h]
  calc m = Nat.ofDigitChars 10 (Nat.toDigits 10 m) 0 := Nat.ofDigitChars_ten_toDigits.symm
    _ = Nat.ofDigitChars 10 (Nat.toDigits 10 n) 0 := by rw [hd]
    _ = n := Nat.ofDigitChars_ten_toDigits

theorem repr_ne_minus_append (m : Nat) (s : String) : m.repr ≠ "-" ++ s := by
  intro h
  have hm : '-' ∈ Nat.toDigits 10 m := by
    rw [← Nat.toList_repr, h, String.toList_append]
    exact List.mem_cons_self
  have := Nat.isDigit_of_mem_toDigits (by decide) (by decide) hm
  exact absurd this (by decide)

theorem toString_int_injective {a b : Int} (h : toString a = toString b) : a = b := by
  rcases a with m | m <;> rcases b with n | n
  · exact congrArg Int.ofNat (repr_nat_injective h)
  · exact absurd h (repr_ne_minus_append m _)
  · exact absurd h.symm (repr_ne_minus_append n _)
  · have hs : m.succ.repr = n.succ.repr := (String.append_right_inj "-").mp h
    exact congrArg Int.negSucc (Nat.succ.inj (repr_nat_injective hs))

theorem portName_injective {name : String} {p q : Int} (h : portName name p = portName name q) :
    p = q := by
  rw [portName, portName] at h
  exact toString_int_injective (String.append_right_inj _ |>.mp h)

/-- A name with a port after it is longer than the name. -/
theorem portName_ne (name : String) (p : Int) : portName name p ≠ name := by
  intro h
  have := congrArg (fun s => s.toList.length) h
  simp [portName] at this

/-! ## Services for ports that nothing covers -/

/-- The services of the ports of an object: the first one bears the name of the object, the others
have the port after it. -/
def portServices (name : String) (selector : StringMap String) : List Int → List Service
  | [] => []
  | port :: ports =>
    .forward name port selector :: ports.map fun p => .forward (portName name p) p selector

/-- Each of the services covers one port, in their order. -/
theorem signatures_portServices (name : String) (selector : StringMap String) (ports : List Int) :
    (portServices name selector ports).map Service.signatures =
      ports.map fun p => [(p, selector)] := by
  cases ports with
  | nil => rfl
  | cons port ports =>
    rw [portServices, List.map_cons, List.map_map, List.map_cons]
    rfl

namespace Coverage

variable {name : String} {selector : StringMap String} {c : Coverage}

/-- A port that is not covered gets a service by the best name that is free. -/
theorem serve_eq {first : Bool} {port : Int} {free : String}
    (hc : (port, selector) ∉ c.covered)
    (hf : (candidates name first port).find? (!c.taken.contains ·) = some free) :
    c.serve name selector first port =
      { covered := (port, selector) :: c.covered
        taken := free :: c.taken
        added := .forward free port selector :: c.added } := by
  have hn : c.covered.contains (port, selector) = false := by simpa using hc
  rw [serve, hn, hf]
  rfl

theorem serve_first {port : Int} (hc : (port, selector) ∉ c.covered) (ht : name ∉ c.taken) :
    c.serve name selector true port =
      { covered := (port, selector) :: c.covered
        taken := name :: c.taken
        added := .forward name port selector :: c.added } :=
  serve_eq hc (List.find?_cons_of_pos (by simpa using ht))

theorem serve_next {port : Int} (hc : (port, selector) ∉ c.covered)
    (ht : portName name port ∉ c.taken) :
    c.serve name selector false port =
      { covered := (port, selector) :: c.covered
        taken := portName name port :: c.taken
        added := .forward (portName name port) port selector :: c.added } :=
  serve_eq hc (List.find?_cons_of_pos (by simpa using ht))

/-- Further ports, none of which is covered, all get services if their names are free: the names
differ, so none takes the name of another one. -/
theorem added_serveAll_next {ports : List Int} (hn : ports.Nodup)
    (hc : ∀ p ∈ ports, (p, selector) ∉ c.covered) (ht : ∀ p ∈ ports, portName name p ∉ c.taken) :
    (c.serveAll name selector false ports).added.reverse =
      c.added.reverse ++ ports.map fun p => .forward (portName name p) p selector := by
  induction ports generalizing c with
  | nil => rw [serveAll, List.map_nil, List.append_nil]
  | cons port ports ih =>
    obtain ⟨hp, hn⟩ := List.nodup_cons.mp hn
    rw [serveAll, serve_next (hc port List.mem_cons_self) (ht port List.mem_cons_self), ih hn,
      List.reverse_cons, List.append_assoc, List.map_cons, List.singleton_append]
    · intro p hm h
      rcases List.mem_cons.mp h with h | h
      · rw [(Prod.mk.inj h).1] at hm
        exact hp hm
      · exact hc p (List.mem_cons_of_mem _ hm) h
    · intro p hm h
      rcases List.mem_cons.mp h with h | h
      · rw [portName_injective h] at hm
        exact hp hm
      · exact ht p (List.mem_cons_of_mem _ hm) h

/-- Where nothing is covered and no name is taken, all ports of an object get services. -/
theorem added_serveAll {ports : List Int} (hn : ports.Nodup) (hc : c.covered = [])
    (ht : c.taken = []) :
    (c.serveAll name selector true ports).added.reverse =
      c.added.reverse ++ portServices name selector ports := by
  cases ports with
  | nil => rw [serveAll, portServices, List.append_nil]
  | cons port ports =>
    obtain ⟨hp, hn⟩ := List.nodup_cons.mp hn
    rw [serveAll, serve_first (by simp [hc]) (by simp [ht]), added_serveAll_next hn,
      List.reverse_cons, List.append_assoc, portServices, List.singleton_append]
    · intro p hm h
      rw [hc, List.mem_singleton] at h
      rw [(Prod.mk.inj h).1] at hm
      exact hp hm
    · intro p _ h
      rw [ht, List.mem_singleton] at h
      exact portName_ne name p h

end Coverage

/-! ## Services for a list of objects -/

/-- An object that runs no pods and gives no service. -/
def Object.isIdle : Object → Bool
  | .buildConfig _ | .imageRepository _ => true
  | .deploymentConfig _ | .service _ => false

section Idle

variable {os : List Object} (h : ∀ o ∈ os, o.isIdle = true)
include h

theorem ofObjects_idle : Coverage.ofObjects os = ⟨[], [], []⟩ := by
  have hs : os.flatMap Object.signatures = [] := by
    refine List.flatMap_eq_nil_iff.mpr fun o ho => ?_
    cases o <;> first | rfl | cases h _ ho
  have hf : os.filter Object.isService = [] := by
    refine List.filter_eq_nil_iff.mpr fun o ho => ?_
    cases o <;> first | exact Bool.false_ne_true | cases h _ ho
  rw [Coverage.ofObjects, hs, hf, List.map_nil]

theorem serveObjects_idle (c : Coverage) : os.foldl Coverage.serveObject c = c := by
  induction os with
  | nil => rfl
  | cons o os ih =>
    have ho : c.serveObject o = c := by
      cases o <;> first | rfl | cases h _ List.mem_cons_self
    rw [List.foldl_cons, ho]
    exact ih fun o ho => h o (List.mem_cons_of_mem _ ho)

/-- Objects that run no pods get no services. -/
theorem addServices_idle : addServices os = os := by
  rw [addServices, ofObjects_idle h, serveObjects_idle h]
  exact List.append_nil os

/-- A deployment after objects that run no pods gets a service for each of its ports. -/
theorem addServices_deployment {d : DeploymentConfig} (hd : d.selector.isEmpty = false)
    (hn : d.containerPorts.Nodup) :
    addServices (os ++ [.deploymentConfig d]) =
      os ++ .deploymentConfig d ::
        (portServices (d.metadata.name.getD "") d.selector d.containerPorts).map .service := by
  have hc : Coverage.ofObjects (os ++ [.deploymentConfig d]) = ⟨[], [], []⟩ := by
    have := ofObjects_idle h
    rw [Coverage.ofObjects, Coverage.mk.injEq] at this
    rw [Coverage.ofObjects, List.flatMap_append, List.filter_append, List.map_append, this.1,
      this.2.1]
    rfl
  have hs : Coverage.serveObject ⟨[], [], []⟩ (.deploymentConfig d) =
      Coverage.serveAll (d.metadata.name.getD "") d.selector true d.containerPorts
        ⟨[], [], []⟩ := by
    simp [Coverage.serveObject, Object.isService, Object.selector?, Object.name, Object.metadata,
      Object.containerPorts, hd]
  rw [addServices, hc, List.foldl_append, serveObjects_idle h, List.foldl_cons, List.foldl_nil,
    hs, Coverage.added_serveAll hn rfl rfl, List.append_assoc]
  rfl

end Idle

end DeployPlan
