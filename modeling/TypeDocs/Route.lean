import TypeDocs.TypeDescription

/-!
# Verbs and routes

A method answers requests of a verb when it has an attribute for one. Its route is the prefix of
its controller, or the controller's name, and then the method's name when it has a verb; slashes
that follow each other are one.
-/

namespace TypeDocs

namespace Route

/-- The text with every run of slashes made one, after a slash if `slash`. -/
def collapseFrom (slash : Bool) : List Char → List Char
  | [] => []
  | c :: cs =>
    if c == '/' then if slash then collapseFrom true cs else '/' :: collapseFrom true cs
    else c :: collapseFrom false cs

def collapse (s : String) : String := .ofList (collapseFrom false s.toList)

/-- The name of a controller without its usual ending. -/
def base (controller : String) : String :=
  (Text.dropSuffix? "Controller" controller).getD controller

/-- A path of two parts, the first of them the prefix or, when that is empty, the base. -/
def path (controller routePrefix segment : String) : String :=
  let first := if routePrefix.isEmpty then base controller else routePrefix
  collapse ("/" ++ first ++ "/" ++ segment)

end Route

namespace Method

variable (m : Method)

/-- The first attribute that stands for a verb. -/
def httpAttribute? : Option Attribute :=
  m.attributes.find? fun a => Text.startsWith Attribute.verbStart a.kind

def unknownVerb : String := "UNKNOWN"

def verb : String :=
  match m.httpAttribute? with
  | some a => Text.upperText a.shortKind
  | none => unknownVerb

def route (controller routePrefix : String) : String :=
  Route.path controller routePrefix (if m.httpAttribute?.isSome then m.name else "")

end Method

/-- What the type's own route attribute says, if anything. -/
def TypeDescription.routePrefix (t : TypeDescription) : String :=
  match t.attributes.value? Attribute.routeKind "template" with
  | some template => Text.strip template
  | none => ""

end TypeDocs
