import SourceAtlas.Text.Cut

/-!
# Build files

Files that describe how a project is built or what it depends on are known by their names, or by an
extension that only such files have.
-/

namespace SourceAtlas

/-- The family of tools that a build file belongs to. -/
inductive Ecosystem where
  | python | node | rust | jvm | go | ruby | php | dotnet | native | container
  deriving DecidableEq, Repr

namespace Ecosystem

/-- The spelling of a family in records. -/
def tag : Ecosystem → String
  | python => "python"
  | node => "node"
  | rust => "rust"
  | jvm => "jvm"
  | go => "go"
  | ruby => "ruby"
  | php => "php"
  | dotnet => "dotnet"
  | native => "native"
  | container => "container"

end Ecosystem

/-- What is known of a build file. -/
structure BuildFile where
  /-- Its file name, or its extension. -/
  name : String
  /-- The family of tools that reads it. -/
  ecosystem : Ecosystem
  /-- The command that installs or builds what it describes. -/
  command : Option String
  deriving DecidableEq, Repr

namespace BuildFile

/-- Build files known by their whole names. -/
def byName : List BuildFile :=
  [⟨"requirements.txt", .python, some "pip install -r requirements.txt"⟩,
   ⟨"requirements-dev.txt", .python, some "pip install -r requirements-dev.txt"⟩,
   ⟨"setup.py", .python, some "pip install ."⟩,
   ⟨"setup.cfg", .python, none⟩,
   ⟨"pyproject.toml", .python, some "pip install ."⟩,
   ⟨"Pipfile", .python, some "pipenv install"⟩,
   ⟨"Pipfile.lock", .python, none⟩,
   ⟨"poetry.lock", .python, some "poetry install"⟩,
   ⟨"tox.ini", .python, none⟩,
   ⟨"environment.yml", .python, some "conda env create -f environment.yml"⟩,
   ⟨"package.json", .node, some "npm install"⟩,
   ⟨"package-lock.json", .node, none⟩,
   ⟨"yarn.lock", .node, some "yarn install"⟩,
   ⟨"pnpm-lock.yaml", .node, some "pnpm install"⟩,
   ⟨"pnpm-workspace.yaml", .node, none⟩,
   ⟨"tsconfig.json", .node, none⟩,
   ⟨"webpack.config.js", .node, none⟩,
   ⟨"vite.config.ts", .node, none⟩,
   ⟨"vite.config.js", .node, none⟩,
   ⟨"Cargo.toml", .rust, some "cargo build"⟩,
   ⟨"Cargo.lock", .rust, none⟩,
   ⟨"rust-toolchain.toml", .rust, none⟩,
   ⟨"pom.xml", .jvm, some "mvn install"⟩,
   ⟨"build.gradle", .jvm, some "gradle build"⟩,
   ⟨"build.gradle.kts", .jvm, some "gradle build"⟩,
   ⟨"settings.gradle", .jvm, none⟩,
   ⟨"settings.gradle.kts", .jvm, none⟩,
   ⟨"gradle.properties", .jvm, none⟩,
   ⟨"build.sbt", .jvm, some "sbt compile"⟩,
   ⟨"go.mod", .go, some "go mod download"⟩,
   ⟨"go.sum", .go, none⟩,
   ⟨"go.work", .go, none⟩,
   ⟨"Gemfile", .ruby, some "bundle install"⟩,
   ⟨"Gemfile.lock", .ruby, none⟩,
   ⟨"Rakefile", .ruby, none⟩,
   ⟨"composer.json", .php, some "composer install"⟩,
   ⟨"composer.lock", .php, none⟩,
   ⟨"Directory.Build.props", .dotnet, none⟩,
   ⟨"global.json", .dotnet, none⟩,
   ⟨"NuGet.Config", .dotnet, none⟩,
   ⟨"Makefile", .native, some "make"⟩,
   ⟨"CMakeLists.txt", .native, some "cmake -B build && cmake --build build"⟩,
   ⟨"meson.build", .native, some "meson setup build"⟩,
   ⟨"configure.ac", .native, none⟩,
   ⟨"Package.swift", .native, some "swift build"⟩,
   ⟨"Dockerfile", .container, some "docker build ."⟩,
   ⟨"docker-compose.yml", .container, some "docker compose up"⟩,
   ⟨"docker-compose.yaml", .container, some "docker compose up"⟩,
   ⟨"compose.yaml", .container, some "docker compose up"⟩]

/-- Build files known by their extensions, whatever the name before it. -/
def byExtension : List BuildFile :=
  [⟨"csproj", .dotnet, some "dotnet build"⟩,
   ⟨"fsproj", .dotnet, some "dotnet build"⟩,
   ⟨"sln", .dotnet, some "dotnet build"⟩,
   ⟨"gemspec", .ruby, some "gem build"⟩]

/-- What is known of a file with this name, if it is a build file
(`BuildArtifactDetector.lookup`). -/
def lookup? (fileName : String) : Option BuildFile :=
  match byName.find? (·.name == fileName) with
  | some entry => some entry
  | none =>
    match Text.cutLast? '.' fileName.toList with
    | some (_ :: _, extension) => byExtension.find? (·.name == String.ofList extension)
    | _ => none

/-- Whether a file with this name is a build file (`is_build_artifact`). -/
def isBuildFile (fileName : String) : Bool := (lookup? fileName).isSome

end BuildFile

end SourceAtlas
