/-
# Settings

The fixed names and texts of a component host.
-/

namespace ComponentHost
namespace Settings

/-- The name of the application. -/
def appName : String := "widgetbay"

/-- The route segment below which assets are served; it has no slashes. -/
def routePrefix : String := "components"

/-- The file that stands for a bundle as a whole. -/
def defaultDocument : String := "index.html"

/-- The cache policy of documents, which may change at any time. -/
def mutableCacheControl : String := "no-cache"

/-- The cache policy of all other files, which carry their version in their name. -/
def immutableCacheControl : String := "public"

/-- The kind of element that a component instance is. -/
def elementKind : String := "component_instance"

/-- The kind of node that a component instance adds to a page. -/
def nodeKind : String := "component"

end Settings
end ComponentHost
