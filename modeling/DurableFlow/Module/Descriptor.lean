import DurableFlow.Module.Tool

/-!
Deployment descriptors: where a module stands, which workflow it runs and which resources it needs.
-/

namespace DurableFlow.Module

/-- The members that a module served as a tool needs. -/
def toolMembers (className : String) : Members :=
  [("compatibility_flags", Json.ofStrings ["nodejs_compat"]),
   ("durable_objects", .obj [("bindings", .arr
     [.obj [("class_name", .str (toolClass className)), ("name", .str Tool.serverBinding)]])]),
   ("migrations", .arr
     [.obj [("tag", .str "v1"), ("new_sqlite_classes", Json.ofStrings [toolClass className])]])]

def descriptor (deployment className : String) (bindings : List Binding) (s : CompilerSettings)
    (isTool : Bool) : Members :=
  [("name", .str (slug deployment ++ "-worker")),
   ("main", .str s.mainModule),
   ("compatibility_date", .str s.compatibilityDate),
   ("workflows", .arr
     [.obj [("name", .str (slug deployment)), ("binding", .str (bindingName className)),
       ("class_name", .str className)]])] ++
  Binding.sections bindings ++ (if isTool then toolMembers className else [])

end DurableFlow.Module
