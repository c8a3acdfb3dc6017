import ComponentAtlas.Roles.Component
import ComponentAtlas.Roles.Injectable
import ComponentAtlas.Roles.Module
import ComponentAtlas.Roles.Pipe

/-!
# The handlers of the five roles
-/

namespace ComponentAtlas

/-- The handlers in the order in which they look at a class. -/
def Context.handlers (cx : Context) : List (Handler World Analysis Resolution) :=
  [cx.componentHandler, cx.directiveHandler, cx.pipeHandler, cx.injectableHandler, cx.moduleHandler]

/-- The engine of the five roles. -/
def Context.engine (cx : Context) : Engine World Analysis Resolution := ⟨cx.program, cx.handlers⟩

end ComponentAtlas
