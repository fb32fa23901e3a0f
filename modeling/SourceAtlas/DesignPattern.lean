import SourceAtlas.Text.Cut

/-!
# Design patterns

Some design patterns show in the names of types: a project with a `UserRepository` follows the
repository pattern.
-/

namespace SourceAtlas

/-- A design pattern that shows in the names of types. -/
inductive DesignPattern where
  | repository | serviceLayer | factory | builder | controller | handler
  deriving DecidableEq, Repr

namespace DesignPattern

/-- All design patterns, in listing order. -/
def all : List DesignPattern := [repository, serviceLayer, factory, builder, controller, handler]

/-- What the name of a type has to contain. -/
def marker : DesignPattern → String
  | repository => "Repository"
  | serviceLayer => "Service"
  | factory => "Factory"
  | builder => "Builder"
  | controller => "Controller"
  | handler => "Handler"

/-- The spelling of a pattern in records. -/
def tag : DesignPattern → String
  | repository => "repository"
  | serviceLayer => "service-layer"
  | factory => "factory"
  | builder => "builder"
  | controller => "controller"
  | handler => "handler"

/-- The name of a pattern in prose. -/
def displayName : DesignPattern → String
  | repository => "Repository Pattern"
  | serviceLayer => "Service Layer"
  | factory => "Factory Pattern"
  | builder => "Builder Pattern"
  | controller => "MVC/Controller Pattern"
  | handler => "Handler Pattern"

/-- The patterns that show in some of the given names, in listing order (`DesignPattern.detect`). -/
def detect (classNames : List String) : List DesignPattern :=
  all.filter fun p => classNames.any (Text.contains · p.marker)

end DesignPattern

end SourceAtlas
