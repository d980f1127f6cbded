import ZigAdvisor.Json.Basic
import ZigAdvisor.Number.Reading
import ZigAdvisor.Service.Log
import ZigAdvisor.Text.Case

/-!
# Settings

The settings of the server have defaults. Some of them are read from the environment, where a
number that cannot be read is as good as none. How deep values may be nested is not for the user to
set: it depends on what runs the program.
-/

namespace ZigAdvisor

/-- How deep arrays and objects may be nested where they are read or written. Each limit is what
the calls that are open already leave of the stack, so it differs from place to place. Nothing but
arrays and objects counts towards it. -/
structure Nesting where
  /-- In a line of a session. -/
  lines : Nat
  /-- In the body of a response. -/
  bodies : Nat
  /-- In a listing that is written. -/
  listings : Nat
  /-- In a configuration that is read. -/
  files : Nat
  /-- In a configuration that is written. -/
  configurations : Nat
  /-- There is room for what the server says of itself. -/
  lines_room : 16 ≤ lines
  files_room : 16 ≤ files

/-- Where there is room for nearly a thousand calls, and what is read can be written again. -/
def Nesting.usual : Nesting where
  lines := 981
  bodies := 977
  listings := 981
  files := 988
  configurations := 991
  lines_room := by decide
  files_room := by decide

structure Settings where
  /-- The largest source text that is accepted, in code points. -/
  maxCodeSize : Int
  /-- The release that build scripts are made for. -/
  defaultZigVersion : Text
  docsVersion : Text
  docsBaseUrl : Text
  githubApiUrl : Text
  /-- How many repositories are listed. -/
  popularRepoCount : Int
  httpTimeout : Double
  githubToken : Option Text
  logLevel : Text
  nesting : Nesting

abbrev Environment := List (Text × Text)

namespace Settings

def standard : Settings where
  maxCodeSize := 1024 * 1024
  defaultZigVersion := "0.12.0"
  docsVersion := "0.14.1"
  docsBaseUrl := "https://ziglang.org/documentation"
  githubApiUrl := "https://api.github.com"
  popularRepoCount := 10
  httpTimeout := .ofDecimal false 20 0
  githubToken := none
  logLevel := "INFO"
  nesting := .usual

def read? (env : Environment) (name : Text) : Option Text := env.lookup name

def nonempty? (env : Environment) (name : Text) : Option Text :=
  (read? env name).filter (!·.isEmpty)

def ofEnvironment (env : Environment) (nesting : Nesting := .usual) : Settings :=
  let timeout := (nonempty? env "ZIG_MCP_HTTP_TIMEOUT").bind Double.read?
  let level := Text.upper ((read? env "ZIG_MCP_LOG_LEVEL").getD standard.logLevel)
  { standard with
    githubToken := nonempty? env "GITHUB_TOKEN"
    docsVersion := (read? env "ZIG_MCP_DOCS_VERSION").getD standard.docsVersion
    httpTimeout := timeout.getD standard.httpTimeout
    logLevel := if (nonempty? env "DEBUG").isSome then "DEBUG" else level
    nesting := nesting }

/-- The settings for inspection. Of the token only its presence is told. -/
def summary (s : Settings) : Json :=
  .obj [
    ("max_code_size", .int s.maxCodeSize),
    ("default_zig_version", .str s.defaultZigVersion),
    ("docs_version", .str s.docsVersion),
    ("docs_base_url", .str s.docsBaseUrl),
    ("github_api_url", .str s.githubApiUrl),
    ("popular_repo_count", .int s.popularRepoCount),
    ("http_timeout", .float s.httpTimeout),
    ("github_token", .bool s.githubToken.isSome),
    ("log_level", .str s.logLevel)]

def threshold (s : Settings) : Nat := LogLevel.threshold s.logLevel

end Settings

end ZigAdvisor
