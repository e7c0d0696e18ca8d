import CodeHealth.Data.Xml
import CodeHealth.Dependency.Spec
import CodeHealth.Pattern

/-!
# Manifests of Java, C# and Ruby projects

Maven and .NET projects are XML documents. Gradle builds and Gemfiles are programs, of which only
lines of a usual form are understood.
-/

namespace CodeHealth.Projects

open CodeHealth.Text Pattern

/-! ### Maven -/

/-- The dependency of an element `n`. It has a group, an artifact and a version that is written
out. -/
def mavenDependency? (n : Xml.Node) : Option Dependency :=
  let group := n.childText "groupId"
  let artifact := n.childText "artifactId"
  let version := n.childText "version"
  if group.isEmpty || artifact.isEmpty || version.isEmpty || "$\x7b".toList.isPrefixOf version then
    none
  else some (Dependency.ofNamed .maven (group ++ ':' :: artifact) version)

/-- The dependencies that a Maven project has itself, in order, when `content` is well-formed. -/
def maven? (content : List Char) : Option (List Dependency) := do
  let project ← Xml.parse? content
  let lists := project.childrenNamed "dependencies"
  return (lists.flatMap (Xml.Node.childrenNamed "dependency")).filterMap mavenDependency?

/-! ### Gradle -/

/-- A quotation mark of either kind, as both may be used in `gradleLine` and `gemLine`. -/
def quotationMark : Pattern := oneOf "'\""

/-- A dependency of a Gradle build on one line: group, artifact and version between quotes, in the
groups `1`, `2` and `3`. -/
def gradleLine : Pattern :=
  texts ["implementation", "api", "compile", "testImplementation"] ++ spaces ++ opt (text "(") ++
    spaces ++ quotationMark ++ group 1 (plus (noneOf ":'\"")) ++ text ":" ++
    group 2 (plus (noneOf ":'\"")) ++ text ":" ++ group 3 (plus (noneOf "'\"")) ++ quotationMark

/-- The dependency on a `line` of a Gradle build, where `gradleLine` is found. -/
def gradleDependency? (line : List Char) : Option Dependency := do
  let found ← gradleLine.find? line
  return Dependency.ofNamed .maven ((← found.text? 1) ++ ':' :: (← found.text? 2))
    (← found.text? 3)

/-- The dependencies of a Gradle build with this `content`, in order. -/
def gradle (content : List Char) : List Dependency := (lines content).filterMap gradleDependency?

/-! ### Gemfiles -/

/-- A gem on one line, with the first constraint on its version, in the groups `1` and `2`. -/
def gemLine : Pattern :=
  text "gem" ++ gap ++ quotationMark ++ group 1 (plus (noneOf "'\"")) ++ quotationMark ++
    opt (spaces ++ text "," ++ spaces ++ quotationMark ++ group 2 (plus (noneOf "'\"")) ++
      quotationMark)

/-- Whether `c` is a mark of a range in front of the version of a gem. -/
def isGemMark (c : Char) : Bool := c == '~' || c == '>' || c == '=' || c == ' '

/-- The gem on a `line` that is no comment, where `gemLine` is found. -/
def gem? (line : List Char) : Option Dependency := do
  let line := trim line
  if line.head? == some '#' then none
  else
    let found ← gemLine.find? line
    return Dependency.ofNamed .rubyGems (← found.text? 1)
      (((found.text? 2).getD []).dropWhile isGemMark)

/-- The gems of a Gemfile with this `content`, in order. -/
def gems (content : List Char) : List Dependency := (lines content).filterMap gem?

/-! ### .NET -/

/-- The package that an element `n` refers to. Its version is an attribute or a child. -/
def packageReference? (n : Xml.Node) : Option Dependency := do
  let name := trim (← n.attribute? "Include")
  let version := match n.attribute? "Version" with
    | some version => trim version
    | none => n.childText "Version"
  if name.isEmpty || version.isEmpty then none else some (Dependency.ofNamed .nuGet name version)

/-- The packages that a .NET project with this `content` refers to, in order. -/
def dotnet? (content : List Char) : Option (List Dependency) := do
  let project ← Xml.parse? content
  return (project.preorder.filter fun n => n.name == "PackageReference".toList).filterMap
    packageReference?

end CodeHealth.Projects
