/-
The source languages that are told apart, and how a file name or a tag picks
one.

A language has a tag (its `id`), a name for readers and the file extensions
that stand for it. Tags and extensions are compared up to ASCII case. Every
file name has a language: without an extension that is known, it is
`Language.standard`.
-/
import Obfuscator.FileName
import Obfuscator.Text.Case

namespace Obfuscator

/-- The source languages that are told apart, in the order in which they are
listed. -/
inductive Language
  | javascript
  | typescript
  | react
  | vue
  | svelte
  | python
  | java
  | c
  | cpp
  | csharp
  | go
  | rust
  | php
  | ruby
  | swift
  | kotlin
  | scala
  | haskell
  | ocaml
  | fsharp
  | clojure
  | elm
  | assembly
  | shell
  | powershell
  | lua
  | perl
  | sql
  | r
  | matlab
  | dart
  | visualbasic
  | pascal
  | d
  | nim
  | zig
  deriving DecidableEq, Repr

namespace Language

/-- Every language once, in listing order. -/
def all : List Language :=
  [javascript, typescript, react, vue, svelte, python, java, c, cpp, csharp,
    go, rust, php, ruby, swift, kotlin, scala, haskell, ocaml, fsharp, clojure,
    elm, assembly, shell, powershell, lua,
    perl, sql, r, matlab, dart, visualbasic, pascal, d, nim, zig]

/-- The language of a file whose name does not tell. -/
def standard : Language := javascript

-- ============================================== what a language is called

/-- The tag by which a language is chosen and reported. -/
def id : Language → String
  | javascript => "javascript"
  | typescript => "typescript"
  | react => "react"
  | vue => "vue"
  | svelte => "svelte"
  | python => "python"
  | java => "java"
  | c => "c"
  | cpp => "cpp"
  | csharp => "csharp"
  | go => "go"
  | rust => "rust"
  | php => "php"
  | ruby => "ruby"
  | swift => "swift"
  | kotlin => "kotlin"
  | scala => "scala"
  | haskell => "haskell"
  | ocaml => "ocaml"
  | fsharp => "fsharp"
  | clojure => "clojure"
  | elm => "elm"
  | assembly => "assembly"
  | shell => "shell"
  | powershell => "powershell"
  | lua => "lua"
  | perl => "perl"
  | sql => "sql"
  | r => "r"
  | matlab => "matlab"
  | dart => "dart"
  | visualbasic => "visualbasic"
  | pascal => "pascal"
  | d => "d"
  | nim => "nim"
  | zig => "zig"

/-- The name of a language for readers. -/
def name : Language → String
  | javascript => "JavaScript"
  | typescript => "TypeScript"
  | react => "React"
  | vue => "Vue.js"
  | svelte => "Svelte"
  | python => "Python"
  | java => "Java"
  | c => "C"
  | cpp => "C++"
  | csharp => "C#"
  | go => "Go"
  | rust => "Rust"
  | php => "PHP"
  | ruby => "Ruby"
  | swift => "Swift"
  | kotlin => "Kotlin"
  | scala => "Scala"
  | haskell => "Haskell"
  | ocaml => "OCaml"
  | fsharp => "F#"
  | clojure => "Clojure"
  | elm => "Elm"
  | assembly => "Assembly"
  | shell => "Shell Script"
  | powershell => "PowerShell"
  | lua => "Lua"
  | perl => "Perl"
  | sql => "SQL"
  | r => "R"
  | matlab => "MATLAB"
  | dart => "Dart"
  | visualbasic => "Visual Basic"
  | pascal => "Pascal"
  | d => "D"
  | nim => "Nim"
  | zig => "Zig"

/-- The file extensions, without a dot, that stand for a language. -/
def extensions : Language → List String
  | javascript => ["js"]
  | typescript => ["ts"]
  | react => ["jsx", "tsx"]
  | vue => ["vue"]
  | svelte => ["svelte"]
  | python => ["py"]
  | java => ["java"]
  | c => ["c"]
  | cpp => ["cpp", "cc", "cxx"]
  | csharp => ["cs"]
  | go => ["go"]
  | rust => ["rs"]
  | php => ["php"]
  | ruby => ["rb"]
  | swift => ["swift"]
  | kotlin => ["kt"]
  | scala => ["scala"]
  | haskell => ["hs"]
  | ocaml => ["ml"]
  | fsharp => ["fs"]
  | clojure => ["clj"]
  | elm => ["elm"]
  | assembly => ["asm", "s"]
  | shell => ["sh", "bash"]
  | powershell => ["ps1"]
  | lua => ["lua"]
  | perl => ["perl", "pl"]
  | sql => ["sql"]
  | r => ["r"]
  | matlab => ["m"]
  | dart => ["dart"]
  | visualbasic => ["vb"]
  | pascal => ["pas"]
  | d => ["d"]
  | nim => ["nim"]
  | zig => ["zig"]

-- ======================================================= how one is found

/-- The language with a given tag. -/
def ofId? (tag : String) : Option Language :=
  all.find? fun l => Text.sameUpToCase l.id tag

/-- The language for which a file extension stands. -/
def ofExtension? (extension : String) : Option Language :=
  all.find? fun l => l.extensions.any fun e => Text.sameUpToCase e extension

/-- The language of a file, read off its name. -/
def ofFileName (fileName : String) : Language :=
  ((FileName.extension? fileName).bind ofExtension?).getD standard

theorem mem_all (l : Language) : l ∈ all := by
  cases l <;> decide

end Language

end Obfuscator
