import WebCompat.DocumentKind
import WebCompat.Text.Lowercase

/-!
The vocabulary of the web platform: the names worth a lookup, by the language that a
document is written in. Names that an author made up are never in it.
-/

namespace WebCompat.Vocabulary

/-- Standard element names. -/
def htmlTags : List String :=
  ["div", "span", "p", "h1", "h2", "h3", "h4", "h5", "h6", "a", "img", "ul", "ol", "li", "table",
   "tr", "td", "th", "form", "input", "button", "textarea", "select", "option", "nav", "header",
   "footer", "main", "section", "article", "aside", "canvas", "video", "audio", "source",
   "iframe", "script", "style", "link", "meta", "title", "body", "html"]

/-- Common style properties. -/
def cssProperties : List String :=
  ["color", "background-color", "font-size", "margin", "padding", "border", "width", "height",
   "display", "position", "float", "clear", "overflow", "z-index", "opacity", "visibility",
   "text-align", "text-decoration", "font-weight", "font-family", "line-height", "flex", "grid",
   "transform", "transition", "animation", "box-shadow", "border-radius", "cursor"]

/-- Well-known script globals and methods. -/
def jsGlobals : List String :=
  ["querySelector", "getElementById", "getElementsByClassName", "addEventListener", "fetch",
   "Promise", "Array", "Object", "String", "Number", "Boolean", "console", "setTimeout",
   "setInterval", "localStorage", "sessionStorage", "window", "document", "navigator",
   "location", "history", "XMLHttpRequest", "WebSocket", "Worker", "IntersectionObserver"]

/-- Whether a text names an element, whatever its case. -/
def isHtmlTag (text : String) : Bool :=
  htmlTags.contains (Text.lowercase text)

/-- Whether a text names a style property, whatever its case. -/
def isCssProperty (text : String) : Bool :=
  cssProperties.contains (Text.lowercase text)

/-- Whether a text names a script global, in its exact case. -/
def isJsGlobal (text : String) : Bool :=
  jsGlobals.contains text

/-- Whether a text names something of the web platform in a document of the given kind. -/
def recognizes (kind : DocumentKind) (text : String) : Bool :=
  match kind with
  | .html => isHtmlTag text
  | .css | .scss | .less => isCssProperty text
  | .javascript | .typescript => isJsGlobal text
  | .javascriptReact | .typescriptReact => isJsGlobal text || isHtmlTag text
  | .other => false

end WebCompat.Vocabulary
