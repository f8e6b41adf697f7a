/-
The published schema of the snapshot format, in the vocabulary of JSON Schema.
-/
import CloudCanvas.Json.Basic

namespace CloudCanvas.Command

/-- The schema of a text that defaults to a given value. -/
def textSchema (description : String) (type default : Json) : Json :=
  .object [("description", .string description), ("type", type), ("default", default)]

/-- The schema of a text that may be null and is null by default. -/
def optionalTextSchema (description : String) : Json :=
  textSchema description (.array [.string "string", .string "null"]) .null

/-- The schema of a text that has to be there. -/
def requiredTextSchema (description : String) : Json :=
  .object [("description", .string description), ("type", .string "string")]

/-- The schema of an array that is empty by default, with the name of its items' schema. -/
def arraySchema (description item : String) : Json :=
  .object
    [("description", .string description), ("type", .string "array"), ("default", .array []),
      ("items", .object [("$ref", .string ("#/$defs/" ++ item))])]

/-- The schema of an edge. -/
def edgeSchema : Json :=
  .object
    [("description", .string "A directed edge: `target` depends on `source`."),
      ("type", .string "object"),
      ("properties", .object
        [("id", textSchema "Unique edge identifier" (.string "string") (.string "")),
          ("source", requiredTextSchema "Upstream node id"),
          ("target", requiredTextSchema "Downstream node id")]),
      ("required", .array [.string "source", .string "target"])]

/-- The schema of a node. -/
def nodeSchema : Json :=
  .object
    [("description", .string "A node exactly as the editor sent it."),
      ("type", .string "object"),
      ("properties", .object
        [("id", optionalTextSchema "Unique node identifier"),
          ("kind", optionalTextSchema "Resource kind tag (e.g. `\"s3\"`)"),
          ("label", optionalTextSchema "Display label typed by the user"),
          ("properties", .object
            [("description", .string "Property values keyed by schema field name"),
              ("default", .null)])])]

/-- The schema of a snapshot. -/
def inputSchema : Json :=
  .object
    [("$schema", .string "https://json-schema.org/draft/2020-12/schema"),
      ("title", .string "GraphSnapshot"),
      ("description", .string "Everything on the canvas at the moment generation was requested."),
      ("type", .string "object"),
      ("properties", .object
        [("edges", arraySchema "Edges in creation order" "DependencyEdge"),
          ("nodes", arraySchema "Nodes in canvas order" "NodeRecord")]),
      ("$defs", .object [("DependencyEdge", edgeSchema), ("NodeRecord", nodeSchema)])]

end CloudCanvas.Command
