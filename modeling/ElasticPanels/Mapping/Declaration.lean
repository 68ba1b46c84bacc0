import ElasticPanels.Fault

/-!
# Declarations of a mapping

A mapping is a tree for each index and document type.  Object fields nest below `properties` and
variants of a field below `fields`, and every node with a type declares a field.  `declarations`
lists the declarations of a whole reply in visiting order: below a node first its properties, then
its variants, then the node itself.  What is not an object where one belongs is passed over.
-/

namespace ElasticPanels.Mapping

/-- The declaration of a field: the keys on the way to its node, the node's own key, and its
type. -/
structure Declaration where
  parents : List String
  key : String
  type : String
  deriving DecidableEq, Repr

/-- The path of a declared field. -/
def Declaration.path (d : Declaration) : String := String.intercalate "." (d.parents ++ [d.key])

/-- What a node itself declares. -/
def ownDeclaration (parents : List String) (key : String) (node : Entries Json) :
    List Declaration :=
  match node.get? "type" with
  | some (.str type) => [⟨parents, key, type⟩]
  | _ => []

mutual

/-- The declarations of a node. -/
def nodeDeclarations (parents : List String) (key : String) : Json → List Declaration
  | .obj node =>
    childDeclarations "properties" (parents ++ [key]) node ++
      childDeclarations "fields" (parents ++ [key]) node ++ ownDeclaration parents key node
  | _ => []

/-- The declarations below the first entry of a node that has the given name. -/
def childDeclarations (name : String) (parents : List String) :
    List (String × Json) → List Declaration
  | [] => []
  | (key, value) :: rest =>
    if key = name then treeDeclarations parents value else childDeclarations name parents rest

/-- The declarations of an object of nodes. -/
def treeDeclarations (parents : List String) : Json → List Declaration
  | .obj nodes => forestDeclarations parents nodes
  | _ => []

/-- The declarations of a list of nodes. -/
def forestDeclarations (parents : List String) : List (String × Json) → List Declaration
  | [] => []
  | (key, node) :: rest => nodeDeclarations parents key node ++ forestDeclarations parents rest

end

/-- The declarations of a document type. -/
def ofDocumentType : Json → List Declaration
  | .obj fields => childDeclarations "properties" [] fields
  | _ => []

/-- The declarations of an index. -/
def ofIndex : Json → List Declaration
  | .obj fields => match Entries.get? fields "mappings" with
    | some (.obj types) => types.flatMap fun type => ofDocumentType type.2
    | _ => []
  | _ => []

/-- The declarations of all indices of a reply. -/
def declarations : Json → Outcome (List Declaration)
  | .obj indices => .ok (indices.flatMap fun index => ofIndex index.2)
  | _ => .error .notAnObject

/-! ### Lists of nodes -/

theorem forestDeclarations_eq (parents : List String) (nodes : List (String × Json)) :
    forestDeclarations parents nodes =
      nodes.flatMap fun node => nodeDeclarations parents node.1 node.2 := by
  induction nodes with
  | nil => rfl
  | cons node rest ih => simp [forestDeclarations, ih]

theorem childDeclarations_eq (name : String) (parents : List String)
    (fields : List (String × Json)) :
    childDeclarations name parents fields =
      ((Entries.get? fields name).map (treeDeclarations parents)).getD [] := by
  induction fields with
  | nil => rfl
  | cons field rest ih =>
    obtain ⟨key, value⟩ := field
    by_cases h : key = name
    · simp [childDeclarations, Entries.get?_cons, h]
    · have h' : name ≠ key := fun e => h e.symm
      simp [childDeclarations, Entries.get?_cons, h, h', ih]

end ElasticPanels.Mapping
