/-!
# Declared dependencies

What a project says it depends on, and where its packages are published.
-/

namespace CodeHealth

/-- Where packages are published, and so where their releases are looked up (`Registry`). -/
inductive Ecosystem where
  | goProxy | npm | pyPI | cratesIo | maven | rubyGems | packagist | nuGet
  deriving DecidableEq, Repr

namespace Ecosystem

/-- Every ecosystem, as `ofName?` tries them. -/
def all : List Ecosystem :=
  [goProxy, npm, pyPI, cratesIo, maven, rubyGems, packagist, nuGet]

/-- The name of an ecosystem in documents, by which manifests are reported. -/
def name : Ecosystem → String
  | goProxy => "GoProxy"
  | npm => "Npm"
  | pyPI => "PyPI"
  | cratesIo => "CratesIo"
  | maven => "Maven"
  | rubyGems => "RubyGems"
  | packagist => "Packagist"
  | nuGet => "NuGet"

/-- The ecosystem with exactly this `name`. -/
def ofName? (name : String) : Option Ecosystem := all.find? fun e => e.name == name

end Ecosystem

/-- A dependency that a project declares in a manifest, with the `package` that is looked up for
it. -/
structure Dependency where
  /-- The name in reports. -/
  name : String
  /-- The key under which its releases are looked up. -/
  package : String
  /-- The declared version, without the marks of a range; it may be empty. -/
  version : String
  /-- Where it is published. -/
  ecosystem : Ecosystem
  deriving DecidableEq, Repr

/-- A dependency of an `ecosystem` that is looked up under its own `name`. -/
def Dependency.ofNamed (ecosystem : Ecosystem) (name version : List Char) : Dependency :=
  ⟨String.ofList name, String.ofList name, String.ofList version, ecosystem⟩

end CodeHealth
