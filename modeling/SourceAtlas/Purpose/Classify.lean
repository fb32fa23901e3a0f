import SourceAtlas.Purpose.Basic
import SourceAtlas.Purpose.Tokens
import SourceAtlas.Text.Cut

/-!
# Classifying files

A file has a purpose when one of three signals shows it: it imports a library made for that purpose,
a word of its path or of a declared name says so, or its text holds a telling marker.  A file
without any signal has no particular purpose.
-/

namespace SourceAtlas
namespace Purpose

/-- The signals of one purpose. -/
structure Signals where
  /-- The purpose that they show. -/
  purpose : Purpose
  /-- Libraries, compared with the parts of imports. -/
  libraries : List String
  /-- Words, compared with the words of the path and of declared names. -/
  words : List String
  /-- Markers that stand somewhere in the text. -/
  markers : List String

/-- The signals of every particular purpose. -/
def signals : List Signals :=
  [{ purpose := .serviceEndpoint
     libraries :=
      ["flask", "fastapi", "django", "express", "koa", "fastify", "hapi", "aiohttp", "tornado",
       "starlette", "sanic", "bottle", "gin", "echo", "fiber", "mux", "axum", "actix_web",
       "rocket", "warp", "tonic", "grpc", "springframework", "ktor", "sinatra", "laravel",
       "symfony", "nestjs", "aspnetcore"]
     words :=
      ["api", "router", "routes", "endpoint", "endpoints", "controller", "handler", "server"]
     markers :=
      ["@app.route", "@app.get", "@app.post", "@router.", "@RestController", "@RequestMapping",
       "@GetMapping", "@PostMapping", "[ApiController]", "[HttpGet", "[HttpPost",
       "http.HandleFunc", "#[get(", "#[post(", "app.listen("] },
   { purpose := .persistence
     libraries :=
      ["sqlite3", "sqlite", "sqlalchemy", "psycopg2", "pymysql", "mysql", "postgres", "pg",
       "mongoose", "mongodb", "pymongo", "redis", "sequelize", "typeorm", "prisma", "knex",
       "gorm", "sqlx", "diesel", "rusqlite", "hibernate", "jdbc", "persistence",
       "entityframeworkcore", "activerecord", "peewee", "db"]
     words := ["repository", "repo", "dao", "db", "database", "migration", "migrations"]
     markers := ["CREATE TABLE", "INSERT INTO", "@Entity", "@Table(", "@Repository"] },
   { purpose := .presentation
     libraries :=
      ["react", "react-dom", "vue", "angular", "svelte", "tkinter", "pyqt5", "pyqt6", "pyside6",
       "kivy", "swiftui", "uikit", "jquery", "electron", "flutter", "gtk", "wx", "compose"]
     words :=
      ["view", "views", "component", "components", "widget", "widgets", "screen", "page", "ui"]
     markers := ["@Composable", "@Component(", "ReactDOM", "<template>"] },
   { purpose := .test
     libraries :=
      ["pytest", "unittest", "mocha", "jest", "chai", "junit", "testing", "mockito", "rspec",
       "minitest", "xunit", "nunit", "vitest", "testify", "xctest"]
     words := ["test", "tests", "spec", "specs"]
     markers :=
      ["@Test", "#[test]", "#[cfg(test)]", "@pytest.", "[Fact]", "[TestMethod]", "func Test"] },
   { purpose := .configuration
     libraries :=
      ["configparser", "dotenv", "pydantic_settings", "decouple", "dynaconf", "viper", "config"]
     words := ["config", "configuration", "settings", "env", "environment", "conf"]
     markers := ["os.environ", "process.env", "os.Getenv", "@Configuration"] },
   { purpose := .utility
     libraries := ["lodash", "underscore", "itertools", "functools", "commons", "guava"]
     words :=
      ["util", "utils", "utility", "utilities", "helper", "helpers", "common", "shared", "tools"]
     markers := [] }]

/-- What the classification of a file looks at (`PurposeInput`). -/
structure Evidence where
  /-- The path of the file. -/
  path : String
  /-- The functions it declares. -/
  functions : List String
  /-- The types it declares. -/
  classes : List String
  /-- The modules it imports. -/
  imports : List String
  /-- Its text. -/
  text : String

namespace Evidence

/-- The path without everything after its last dot. -/
def pathStem (e : Evidence) : String :=
  match Text.cutLast? '.' e.path.toList with
  | some (stem, _) => String.ofList stem
  | none => e.path

/-- The words of the path and of the declared names. -/
def words (e : Evidence) : List String :=
  nameTokens e.pathStem ++ (e.classes ++ e.functions).flatMap nameTokens

/-- The parts of all imports. -/
def importParts (e : Evidence) : List String := e.imports.flatMap importSegments

end Evidence

/-- Whether a part of an import names a library: exactly, or followed by a hyphen. -/
def namesLibrary (library part : String) : Bool :=
  part == library || (library ++ "-").toList.isPrefixOf part.toList

/-- Whether some signal shows in the evidence. -/
def Signals.show (s : Signals) (e : Evidence) : Bool :=
  s.libraries.any (fun library => e.importParts.any (namesLibrary library)) ||
    s.words.any e.words.contains ||
    s.markers.any (Text.contains e.text)

/-- The particular purposes that show in the evidence. -/
def shown (e : Evidence) : List Purpose :=
  (signals.filter (·.show e)).map (·.purpose)

/-- The purposes of a file (`PurposeClassifier.classify`). -/
def classify (e : Evidence) : Purposes :=
  match shown e with
  | [] => Purposes.ofList [.general]
  | ps => Purposes.ofList ps

end Purpose
end SourceAtlas
