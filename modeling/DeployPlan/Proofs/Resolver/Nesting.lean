import DeployPlan.Proofs.Resolver.FirstAnswer

/-!
# Chains in chains

A chain is a resolver, so there are chains of chains. A `ResolverTree` has any resolvers for its
leaves and chains for its inner nodes. What `orNext` does with two answers is associative, and the
answer of a chain in which nobody knows the image is its neutral element; so a chain may be replaced
by its resolvers wherever it stands (`firstAnswer_chain_cons`). Its own check of the name makes no
difference there, as the same check has been made before.

`chain_resolvers` says that a tree is the chain of its leaves from left to right, and
`nested_chains_flatten` that both ask the same leaves, in the same order, and answer the same.
-/

namespace DeployPlan

namespace Resolver

variable {m : Type → Type} [Monad m]

/-- The answer of `x`, or the one of `y` if the answer of `x` is passed over. -/
def orNext (x y : ExceptT Error m Image) : ExceptT Error m Image := ExceptT.mk do
  match ← x.run with
  | .ok i => return .ok i
  | .error e => if e.isSkippable then y.run else return .error e

theorem firstAnswer_cons (image : String) (r : Resolver m) (rs : List (Resolver m)) :
    firstAnswer image (r :: rs) = orNext (r.resolve image) (firstAnswer image rs) :=
  rfl

variable [LawfulMonad m]

theorem orNext_resolution (image : String) (y : ExceptT Error m Image) :
    orNext (throw (.resolution image)) y = y := by
  apply ExceptT.ext
  rw [orNext, ExceptT.run_mk, ExceptT.run_throw, pure_bind]
  exact if_pos rfl

theorem orNext_assoc (x y z : ExceptT Error m Image) :
    orNext (orNext x y) z = orNext x (orNext y z) := by
  apply ExceptT.ext
  simp only [orNext, ExceptT.run_mk, bind_assoc]
  refine bind_congr fun answer => ?_
  cases answer with
  | ok i => rw [pure_bind]
  | error e =>
    cases h : e.isSkippable with
    | true => simp only [h, if_true]
    | false => simp only [h, Bool.false_eq_true, if_false, pure_bind]

theorem firstAnswer_append (image : String) (as bs : List (Resolver m)) :
    firstAnswer image (as ++ bs) = orNext (firstAnswer image as) (firstAnswer image bs) := by
  induction as with
  | nil => exact (orNext_resolution image _).symm
  | cons a as ih => rw [List.cons_append, firstAnswer_cons, firstAnswer_cons, ih, orNext_assoc]

theorem resolve_chain (ws : List (WeightedResolver m)) (image : String) :
    (chain ws).resolve image = match ImageName.parse image with
      | .ok _ => firstAnswer image (ws.map (·.resolver))
      | .error e => throw e := by
  show (liftM (ImageName.parse image) >>= fun _ => firstAnswer image _) = _
  cases ImageName.parse image with
  | ok name => exact pure_bind name fun _ => firstAnswer image (ws.map (·.resolver))
  | error e => exact ExceptT.ext (pure_bind _ _)

/-- A chain that stands first in a chain may be replaced by its resolvers. -/
theorem firstAnswer_chain_cons {image : String} {name : ImageName}
    (hn : ImageName.parse image = .ok name) (ws : List (WeightedResolver m))
    (rs : List (Resolver m)) :
    firstAnswer image (chain ws :: rs) = firstAnswer image (ws.map (·.resolver) ++ rs) := by
  rw [firstAnswer_cons, resolve_chain, hn, firstAnswer_append]

end Resolver

/-- Chains of chains, down to resolvers that go by some names. -/
inductive ResolverTree (ι : Type)
  | leaf (i : ι)
  /-- A chain of trees, each with the confidence that is put into it. -/
  | chain (entries : List (Rat × ResolverTree ι))

namespace ResolverTree

variable {ι σ : Type} {m : Type → Type} [Monad m]

mutual

/-- The resolver that a tree is, when these are its leaves. -/
def resolver (leaf : ι → Resolver m) : ResolverTree ι → Resolver m
  | .leaf i => leaf i
  | .chain entries => Resolver.chain (resolvers leaf entries)

/-- The resolvers that the entries of a chain are. -/
def resolvers (leaf : ι → Resolver m) : List (Rat × ResolverTree ι) → List (WeightedResolver m)
  | [] => []
  | (weight, tree) :: rest => ⟨tree.resolver leaf, weight⟩ :: resolvers leaf rest

end

mutual

/-- The leaves from left to right. -/
def leaves : ResolverTree ι → List ι
  | .leaf i => [i]
  | .chain entries => leavesOf entries

/-- The leaves of the entries of a chain, from left to right. -/
def leavesOf : List (Rat × ResolverTree ι) → List ι
  | [] => []
  | (_, tree) :: rest => tree.leaves ++ leavesOf rest

end

/-- Resolvers in one row, with any confidence in each of them. -/
def row (leaf : ι → Resolver m) (weight : ι → Rat) (is : List ι) : List (WeightedResolver m) :=
  is.map fun i => ⟨leaf i, weight i⟩

omit [Monad m] in
theorem map_resolver_row (leaf : ι → Resolver m) (weight : ι → Rat) (is : List ι) :
    (row leaf weight is).map (·.resolver) = is.map leaf := by
  simp [row, Function.comp_def]

section Flattening

variable [LawfulMonad m] {image : String} {name : ImageName}

mutual

/-- A tree may be replaced by its leaves. -/
theorem firstAnswer_resolver_cons (hn : ImageName.parse image = .ok name)
    (leaf : ι → Resolver m) (rs : List (Resolver m)) : (tree : ResolverTree ι) →
    Resolver.firstAnswer image (tree.resolver leaf :: rs) =
      Resolver.firstAnswer image (tree.leaves.map leaf ++ rs)
  | .leaf i => rfl
  | .chain entries => by
    rw [resolver, leaves, Resolver.firstAnswer_chain_cons hn]
    exact firstAnswer_resolvers_append hn leaf rs entries

/-- The entries of a chain may be replaced by their leaves. -/
theorem firstAnswer_resolvers_append (hn : ImageName.parse image = .ok name)
    (leaf : ι → Resolver m) (rs : List (Resolver m)) : (entries : List (Rat × ResolverTree ι)) →
    Resolver.firstAnswer image ((resolvers leaf entries).map (·.resolver) ++ rs) =
      Resolver.firstAnswer image ((leavesOf entries).map leaf ++ rs)
  | [] => rfl
  | (weight, tree) :: rest => by
    have hrest := firstAnswer_resolvers_append hn leaf rs rest
    rw [resolvers, leavesOf, List.map_cons, List.cons_append,
      firstAnswer_resolver_cons hn leaf _ tree, Resolver.firstAnswer_append, hrest,
      ← Resolver.firstAnswer_append, List.map_append, List.append_assoc]

end

/-- A chain of trees is the chain of their leaves. -/
theorem chain_resolvers (leaf : ι → Resolver m) (weight : ι → Rat)
    (entries : List (Rat × ResolverTree ι)) :
    Resolver.chain (resolvers leaf entries) =
      Resolver.chain (row leaf weight (leavesOf entries)) := by
  have hresolve (image : String) : (Resolver.chain (resolvers leaf entries)).resolve image =
      (Resolver.chain (row leaf weight (leavesOf entries))).resolve image := by
    rw [Resolver.resolve_chain, Resolver.resolve_chain, map_resolver_row]
    cases hn : ImageName.parse image with
    | error e => rfl
    | ok name => simpa using firstAnswer_resolvers_append hn leaf [] entries
  rw [Resolver.chain, Resolver.chain, Resolver.mk.injEq]
  exact ⟨rfl, funext hresolve⟩

end Flattening

/-! ## The calls -/

/-- The leaves, each noting its name and what it is asked for. -/
def noted (leaf : ι → Resolver (StateM σ)) (i : ι) : Resolver (Recording (ι × String) σ) :=
  (leaf i).noting fun image _ => (i, image)

/-- Leaves in a row are asked from left to right, up to some place, each once and for the same
name. -/
theorem firstAnswer_noted_records (leaf : ι → Resolver (StateM σ)) (image : String) (is : List ι)
    (s : σ) :
    Records (Resolver.firstAnswer image (is.map (noted leaf)))
      (Resolver.firstAnswer image (is.map leaf)) s
      fun calls _ _ => ∃ n, calls = (is.take n).map (·, image) := by
  induction is generalizing s with
  | nil => exact Records.throw _ ⟨0, rfl⟩
  | cons i is ih =>
    refine Notes.bind (Resolver.resolve_noting _ (leaf i) image s) fun c a t hc => ?_
    subst hc
    cases a with
    | ok found => exact Notes.pure id (Except.ok found) ⟨1, rfl⟩
    | error e =>
      cases hs : e.isSkippable with
      | true =>
        simp only [id, hs, if_true]
        refine (ih t).mono fun calls _ _ hcalls => ?_
        obtain ⟨n, rfl⟩ := hcalls
        exact ⟨n + 1, rfl⟩
      | false =>
        simp only [id, hs, Bool.false_eq_true, if_false]
        exact Notes.pure id (Except.error e) ⟨1, rfl⟩

/-- A chain of chains, however deep, answers what the single chain of its leaves from left to right
answers, whatever the confidence in each of them, and asks the same leaves in the same order: the
first ones, each once and for the name as it is given. -/
theorem nested_chains_flatten (leaf : ι → Resolver (StateM σ)) (weight : ι → Rat)
    (entries : List (Rat × ResolverTree ι)) (image : String) (s : σ) :
    Records ((Resolver.chain (resolvers (noted leaf) entries)).resolve image)
      ((Resolver.chain (resolvers leaf entries)).resolve image) s
      fun calls result t =>
        Records ((Resolver.chain (row (noted leaf) weight (leavesOf entries))).resolve image)
          ((Resolver.chain (row leaf weight (leavesOf entries))).resolve image) s
          (fun calls' result' t' => calls' = calls ∧ result' = result ∧ t' = t) ∧
        ∃ n, calls = ((leavesOf entries).take n).map (·, image) := by
  have hrow : Records ((Resolver.chain (row (noted leaf) weight (leavesOf entries))).resolve image)
      ((Resolver.chain (row leaf weight (leavesOf entries))).resolve image) s
      fun calls _ _ => ∃ n, calls = ((leavesOf entries).take n).map (·, image) := by
    rw [Resolver.chain, Resolver.chain, map_resolver_row, map_resolver_row]
    refine Records.bindExcept (fun name _ => ?_) fun e _ => ⟨0, rfl⟩
    exact firstAnswer_noted_records leaf image (leavesOf entries) s
  rw [chain_resolvers (noted leaf) weight, chain_resolvers leaf weight]
  obtain ⟨calls, hrun, hcalls⟩ := hrow
  exact ⟨calls, hrun, ⟨calls, hrun, rfl, rfl, rfl⟩, hcalls⟩

end ResolverTree

end DeployPlan
