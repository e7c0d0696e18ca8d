import CodeHealth.Files.Discovery
import CodeHealth.Language

/-!
# The files of each language

Which files belong to a language, and which directories hold none that are worth a look.
-/

namespace CodeHealth.Language

/-- The extensions of files in a language, without the dot, which its `filter` asks for. -/
def extensions : Language → List String
  | go => ["go"]
  | typescript => ["ts", "tsx", "js", "jsx"]
  | python => ["py"]
  | rust => ["rs"]
  | java => ["java"]
  | ruby => ["rb"]
  | php => ["php"]
  | csharp => ["cs"]

/-- Directories of tools and of what they produce, which `discover` does not enter. -/
def toolDirectories : Language → List String
  | go => []
  | typescript => ["node_modules", "dist", "build", ".next", "coverage"]
  | python => ["__pycache__", ".venv", "venv", "env", ".tox", ".eggs", ".mypy_cache"]
  | rust => ["target"]
  | java => ["target", "build", ".gradle", ".idea", "bin", "out"]
  | ruby => [".bundle", "vendor", "tmp", ".ruby-lsp"]
  | php => ["vendor", "cache", ".phpunit.cache", "storage"]
  | csharp => ["bin", "obj", ".vs", "packages", "TestResults"]

/-- Texts in the path of a file of tests, which a `filter` passes over. -/
def testPatterns : Language → List String
  | go => []
  | typescript => [".test.", ".spec.", "__tests__", "__mocks__", ".d.ts"]
  | python => ["test_", "_test.py", "conftest.py"]
  | rust => []
  | java => ["Test.java", "Tests.java", "IT.java"]
  | ruby => ["_test.rb", "_spec.rb", "spec/", "test/"]
  | php => ["Test.php", "Tests.php", "test/", "tests/"]
  | csharp => ["Tests.cs", "Test.cs", ".Tests/", ".Test/"]

/-- Ends of names of files of tests, which a `filter` passes over. -/
def testSuffixes : Language → List String
  | go => ["_test.go"]
  | _ => []

/-- The files of a `language` that are analyzed: by `extensions`, without tests. -/
def filter (language : Language) : FileFilter where
  extensions := language.extensions.map String.toList
  skipPatterns := language.testPatterns.map String.toList
  skipSuffixes := language.testSuffixes.map String.toList

/-- Whether the file at `p` is analyzed in a `language`, seen from a `root`. -/
def accepts (language : Language) (root p : Path) : Bool := language.filter.accepts root p

/-- The files of a `language` below a `root`, where `tree` is what the root leads to. The
`toolDirectories` are not entered. -/
def discover (language : Language) (excluded : List Name) (root : Path) (tree : Entry) :
    List SourceFile :=
  CodeHealth.discover language.filter (excluded ++ language.toolDirectories.map String.toList) root
    tree

end CodeHealth.Language
