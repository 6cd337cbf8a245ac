import Mathlib.Data.List.Basic

/-!
# Permissions

A `Permission` (`services/src/pro/permissions/mod.rs`) is `Read` or `Owner`. Three functions
describe which grants satisfy which requests: `allows` says whether a granted permission includes
a requested one, `implied_permissions` lists what a granted permission includes, and
`required_permissions` lists the grants of which one must be present for a request. The examples
after them check, over the two permissions, that they describe one relation and that it orders
the permissions with `Owner` above `Read`.

A `ResourceId` names the resource of a permission. Its `Display` writes a type name, a colon and
the id, and `TryFrom<(String, String)>` reads a type name and an id back. The UUID parser and
printer of the `uuid` crate are parameters, assumed to invert each other. Splitting the text
`Display` writes at its first colon and passing both halves to `try_from` gives the id back for
every kind of resource but one: `try_from` has no arm for the `mlModel` type name `Display`
writes (`ResourceId.tryFrom_splitAtColon_fmt`).
-/

namespace GeoEngine

/-- `Permission`: a right on a resource. -/
inductive Permission
  /-- `Permission::Read`. -/
  | read
  /-- `Permission::Owner`. -/
  | owner
  deriving DecidableEq, Repr

namespace Permission

/-- `Permission::allows`: the granted `self` includes the requested `permission`. -/
def allows (self permission : Permission) : Bool :=
  self == permission || self == .owner

/-- `Permission::implied_permissions`: the permissions a grant includes. -/
def impliedPermissions : Permission → List Permission
  | .read => [.read]
  | .owner => [.owner, .read]

/-- `Permission::required_permissions`: one of these must be granted for a request. -/
def requiredPermissions : Permission → List Permission
  | .read => [.owner, .read]
  | .owner => [.owner]

/- One relation: a grant allows a request iff the request is among the grant's implied
permissions, iff the grant is among the request's required permissions. -/
example (p q : Permission) :
    (p.allows q = true ↔ q ∈ p.impliedPermissions) ∧
      (p.allows q = true ↔ p ∈ q.requiredPermissions) := by
  cases p <;> cases q <;> decide

/- A hierarchy: `allows` is reflexive, transitive and antisymmetric, and `Owner` allows every
permission. -/
example :
    (∀ p : Permission, p.allows p = true) ∧
      (∀ p q r : Permission, p.allows q = true → q.allows r = true → p.allows r = true) ∧
      (∀ p q : Permission, p.allows q = true → q.allows p = true → p = q) ∧
      ∀ p : Permission, owner.allows p = true := by
  refine ⟨fun p => ?_, fun p q r => ?_, fun p q => ?_, fun p => ?_⟩
  · cases p <;> rfl
  · cases p <;> cases q <;> cases r <;> decide
  · cases p <;> cases q <;> decide
  · cases p <;> rfl

end Permission

/-- `ResourceId`: the resource a permission is for. Layers and layer collections are named by
strings, the other resources by UUIDs, of type `U` here. -/
inductive ResourceId (U : Type) where
  | layer (layerId : String)
  | layerCollection (layerCollectionId : String)
  | project (projectId : U)
  | datasetId (datasetId : U)
  | mlModel (mlModelId : U)
  | dataProvider (providerId : U)
  | proDataProvider (providerId : U)
  deriving DecidableEq

/-- The two variants of `crate::error::Error` that `ResourceId::try_from` returns: a UUID that
does not parse (`Error::Uuid`, with the parser's error `UE`) and an unknown type name. -/
inductive Error (UE : Type) where
  | uuid (source : UE)
  | invalidResourceId (resourceType resourceId : String)

namespace ResourceId

variable {U UE : Type}

/-- `impl Display for ResourceId`, with `uuidToString` the `Display` of a UUID. -/
def fmt (uuidToString : U → String) : ResourceId U → String
  | .layer layerId => "layer:" ++ layerId
  | .layerCollection layerCollectionId => "layerCollection:" ++ layerCollectionId
  | .project projectId => "project:" ++ uuidToString projectId
  | .datasetId dataset => "dataset:" ++ uuidToString dataset
  | .mlModel mlModelId => "mlModel:" ++ uuidToString mlModelId
  | .dataProvider providerId => "provider:" ++ uuidToString providerId
  | .proDataProvider providerId => "pro_provider:" ++ uuidToString providerId

/-- `impl TryFrom<(String, String)> for ResourceId`: a type name and an id, with `uuidFromStr`
the `Uuid::from_str` of the `uuid` crate. -/
def tryFrom (uuidFromStr : String → Except UE U) (value : String × String) :
    Except (Error UE) (ResourceId U) :=
  match value.1 with
  | "layer" => .ok (.layer value.2)
  | "layerCollection" => .ok (.layerCollection value.2)
  | "project" => ResourceId.project <$> (uuidFromStr value.2).mapError Error.uuid
  | "dataset" => ResourceId.datasetId <$> (uuidFromStr value.2).mapError Error.uuid
  | "provider" => ResourceId.dataProvider <$> (uuidFromStr value.2).mapError Error.uuid
  | "pro_provider" => ResourceId.proDataProvider <$> (uuidFromStr value.2).mapError Error.uuid
  | _ => .error (.invalidResourceId value.1 value.2)

end ResourceId

/-- The text before the first colon and the text after it: the inverse of the `type:id` format
of `ResourceId`'s `Display`, whose type names have no colon. -/
def splitAtColon (s : String) : String × String :=
  (⟨s.data.takeWhile (· != ':')⟩, ⟨(s.data.dropWhile (· != ':')).drop 1⟩)

theorem splitAtColon_append (t s : String) (ht : ∀ c ∈ t.data, c ≠ ':') :
    splitAtColon (t ++ ":" ++ s) = (t, s) := by
  have hp : ∀ c ∈ t.data, (c != ':') = true := fun c hc => bne_iff_ne.mpr (ht c hc)
  simp only [splitAtColon, String.data_append, List.append_assoc, List.takeWhile_append_of_pos hp,
    List.dropWhile_append_of_pos hp, List.singleton_append, List.takeWhile_cons,
    List.dropWhile_cons, bne_self_eq_false, Bool.false_eq_true, if_false, List.append_nil,
    List.drop_one, List.tail_cons]

namespace ResourceId

variable {U UE : Type}

/-- **Display and try_from.** For a UUID parser that inverts the UUID printer, splitting the
`Display` text of a resource id at its first colon and passing both halves to `try_from` gives the
id back, for every kind of resource but ML models: `try_from` has no `mlModel` arm, so the text of
an ML model id is rejected as an invalid resource id. -/
theorem tryFrom_splitAtColon_fmt (uuidToString : U → String) (uuidFromStr : String → Except UE U)
    (hcodec : ∀ u, uuidFromStr (uuidToString u) = .ok u) :
    (∀ r : ResourceId U, (∀ u, r ≠ .mlModel u) →
      tryFrom uuidFromStr (splitAtColon (r.fmt uuidToString)) = .ok r) ∧
    ∀ u, tryFrom uuidFromStr (splitAtColon ((mlModel u).fmt uuidToString)) =
      .error (.invalidResourceId "mlModel" (uuidToString u)) := by
  refine ⟨fun r hr => ?_, fun u => ?_⟩
  · cases r with
    | layer layerId => exact congrArg _ (splitAtColon_append "layer" layerId (by decide))
    | layerCollection layerCollectionId =>
      exact congrArg _ (splitAtColon_append "layerCollection" layerCollectionId (by decide))
    | project projectId =>
      exact (congrArg _ (splitAtColon_append "project" _ (by decide))).trans
        (by rw [tryFrom]; simp only [hcodec]; rfl)
    | datasetId dataset =>
      exact (congrArg _ (splitAtColon_append "dataset" _ (by decide))).trans
        (by rw [tryFrom]; simp only [hcodec]; rfl)
    | mlModel mlModelId => exact absurd rfl (hr mlModelId)
    | dataProvider providerId =>
      exact (congrArg _ (splitAtColon_append "provider" _ (by decide))).trans
        (by rw [tryFrom]; simp only [hcodec]; rfl)
    | proDataProvider providerId =>
      exact (congrArg _ (splitAtColon_append "pro_provider" _ (by decide))).trans
        (by rw [tryFrom]; simp only [hcodec]; rfl)
  · exact congrArg _ (splitAtColon_append "mlModel" _ (by decide))

/-- With a printer and a parser that invert each other (here UUIDs written as their own text),
a project id comes back and an ML model id is rejected. -/
theorem tryFrom_splitAtColon_fmt_project :
    (∀ u : String, (Except.ok u : Except Unit String) = .ok u) ∧
      tryFrom (fun s => (Except.ok s : Except Unit String))
          (splitAtColon ((project "p").fmt id)) = .ok (project "p") ∧
      tryFrom (fun s => (Except.ok s : Except Unit String))
          (splitAtColon ((mlModel "m").fmt id)) = .error (.invalidResourceId "mlModel" "m") :=
  have hcodec : ∀ u : String, (Except.ok u : Except Unit String) = .ok u := fun _ => rfl
  ⟨hcodec, (tryFrom_splitAtColon_fmt id _ hcodec).1 _ fun _ => ResourceId.noConfusion,
    (tryFrom_splitAtColon_fmt id _ hcodec).2 "m"⟩

end ResourceId

end GeoEngine
