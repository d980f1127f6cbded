import ZigAdvisor.Advice.Practices
import ZigAdvisor.Advice.Troubleshooting
import ZigAdvisor.Resource.Documentation
import ZigAdvisor.Resource.Examples
import ZigAdvisor.Resource.Repositories

/-!
# Resources

The resources that the server offers. Three of them are fetched when they are read, the others are
at hand.
-/

namespace ZigAdvisor

inductive Resource
  | documentation (page : DocSection)
  | repositories
  | practices
  | troubleshooting
  | examples
deriving DecidableEq

namespace Resource

def all : List Resource :=
  [documentation .language, documentation .std, repositories, practices, troubleshooting, examples]

def uri : Resource → String
  | documentation .language => "zig://docs/language-reference"
  | documentation .std => "zig://docs/std-lib"
  | repositories => "zig://repos/popular"
  | practices => "zig://guides/build-best-practices"
  | troubleshooting => "zig://guides/build-troubleshooting"
  | examples => "zig://examples/build-dependencies"

def title : Resource → String
  | documentation .language => "Zig Language Reference"
  | documentation .std => "Zig Standard Library Documentation"
  | repositories => "Popular Zig Repositories"
  | practices => "Zig Build System Best Practices"
  | troubleshooting => "Zig Build Troubleshooting"
  | examples => "Example Build Dependencies"

def description : Resource → String
  | documentation .language => "Official Zig language documentation"
  | documentation .std => "Documentation for the Zig standard library"
  | repositories => "Most starred Zig repositories on GitHub"
  | practices => "Modern build.zig patterns, dependencies and cross-compilation"
  | troubleshooting => "Common build errors and how to fix them"
  | examples => "Well-known Zig packages with their repository URLs"

def mimeType : Resource → String
  | documentation _ => "text/html"
  | repositories => "application/json"
  | practices => "text/markdown"
  | troubleshooting => "text/markdown"
  | examples => "application/json"

def advertisement (r : Resource) : Json :=
  .obj [
    ("uri", .str r.uri), ("name", .str r.title), ("description", .str r.description),
    ("mimeType", .str r.mimeType)]

def advertisedType? (uri : Text) : Option String :=
  (all.find? fun r => Text.ofString r.uri == uri).map mimeType

/-- The addresses that can be read, each with the resource that is behind it. -/
def readers : List (String × Resource) := [
  ("zig://docs/language-reference", documentation .language),
  ("zig://docs/std-lib", documentation .std),
  ("zig://repos/popular", repositories),
  ("zig://guides/build-best-practices", practices),
  ("zig://guides/build-troubleshooting", troubleshooting),
  ("zig://examples/build-dependencies", examples)]

def ofUri? (uri : Text) : Option Resource := Text.registered? readers uri

def read (s : Settings) (net : Http.Outcome) : Resource → Traced (Except FetchFault Text)
  | documentation page => page.fetch s net
  | repositories => Repositories.fetch s net
  | practices => pure (.ok Guide.Practices.text)
  | troubleshooting => pure (.ok Guide.Troubleshooting.text)
  | examples => pure (.ok Dependency.catalogue)

end Resource

end ZigAdvisor
