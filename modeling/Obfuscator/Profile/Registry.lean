/-
The profiles in force, by language.

Registering a profile replaces the one registered before for the same language,
in place, or adds it at the end; so languages stay in the order of their first
registration. A language without a profile of its own gets the fallback, which
is the profile registered last for `Language.standard`, or the built-in one.
-/
import Obfuscator.Profile.Analysis
import Obfuscator.Profile.Browser
import Obfuscator.Profile.Interpreter
import Obfuscator.Profile.MachineCode
import Obfuscator.Profile.VirtualMachine

namespace Obfuscator

/-- Profiles by language, and the profile of every language that has none. -/
structure Registry where
  profiles : List Profile
  fallback : Profile

namespace Registry

/-- Nothing registered yet. -/
def empty : Registry where
  profiles := []
  fallback := Profile.javascript

/-- Puts a profile in the place of the one for its language, or at the end. -/
def put (p : Profile) : List Profile → List Profile
  | [] => [p]
  | q :: rest => if q.language = p.language then p :: rest else q :: put p rest

/-- Registers a profile. -/
def register (reg : Registry) (p : Profile) : Registry where
  profiles := put p reg.profiles
  fallback := if p.language = Language.standard then p else reg.fallback

/-- The profiles the program comes with, in registration order. -/
def builtin : List Profile :=
  [.javascript, .typescript, .react, .vue, .svelte,
    .c, .cpp, .rust, .go, .zig, .d, .nim, .assembly,
    .java, .csharp, .swift, .kotlin, .scala, .fsharp, .dart,
    .visualbasic, .pascal,
    .python, .php, .ruby, .shell, .powershell, .lua, .perl, .sql, .r, .matlab,
    .haskell, .ocaml, .clojure, .elm]

/-- Every built-in profile registered. -/
def standard : Registry :=
  builtin.foldl register empty

/-- The profile in force for a language. -/
def profile (reg : Registry) (l : Language) : Profile :=
  (reg.profiles.find? fun p => decide (p.language = l)).getD reg.fallback

/-- The registered languages in the order of their first registration. -/
def languages (reg : Registry) : List Language :=
  reg.profiles.map (·.language)

end Registry

end Obfuscator
