/-
Profiles of the languages whose programs run on a virtual machine.
-/
import Obfuscator.Profile.Basic

namespace Obfuscator.Profile

open Text (block)

def java : Profile where
  language := .java
  identifiers := ["object", "string", "list", "map", "stream", "optional"]
  junkTemplates := [
    block [
      "public class _0xDummy \x7b",
      "    private int _0xvalue = 42;",
      "    public int _0xmethod() \x7b return _0xvalue; \x7d",
      "\x7d"],
    block [
      "public static void _0xhelper() \x7b",
      "    List<Integer> _0xlist = Arrays.asList(1, 2, 3);",
      "    _0xlist.stream().forEach(System.out::println);",
      "\x7d"]]
  canaryTemplate := block [
    "// Anti-tampering canary functions",
    "public class _IntegrityCheck \x7b",
    "    private static final int _SECRET_VALUE = 0x\x7bsecret\x7d;",
    "",
    "    public static boolean _check() \x7b",
    "        if (_SECRET_VALUE != 0x\x7bsecret\x7d) \x7b",
    "            throw new RuntimeException(\"TamperingDetected\");",
    "        \x7d",
    "        return true;",
    "    \x7d",
    "\x7d",
    "",
    "private static final boolean _CANARY_ACTIVE = _IntegrityCheck._check();"]
  mutationComment := "// AI-optimized Java structure"
  buildTool := "Maven/Gradle"
  executableExtension := ".jar"
  toolchainNote := "Requires Maven/Gradle and JRE for compilation"

def kotlin : Profile where
  language := .kotlin
  identifiers := ["list", "map", "string", "nullable", "lambda"]
  junkTemplates := [
    block [
      "fun _0xdummy(): Int \x7b",
      "    val _0xlist = listOf(1, 2, 3, 4, 5)",
      "    return _0xlist.filter \x7b it % 2 == 0 \x7d.sum()",
      "\x7d"],
    "private val _0xfeed: (Int) -> Int = "
      ++ "\x7b x -> if (x > 0) x * 2 + 1 else 0 \x7d"]
  canaryTemplate := block [
    "// Anti-tampering canary functions",
    "private const val _SECRET_VALUE = 0x\x7bsecret\x7dL",
    "",
    "private fun _integrityCheck(): Boolean \x7b",
    "    if (_SECRET_VALUE != 0x\x7bsecret\x7dL) \x7b",
    "        throw IllegalStateException(\"TamperingDetected\")",
    "    \x7d",
    "    return true",
    "\x7d",
    "",
    "private val _canaryActive = _integrityCheck()"]
  mutationComment := "// AI-optimized Kotlin structure"
  buildTool := "Gradle"
  executableExtension := ".jar"
  toolchainNote := "Requires Kotlin compiler and Gradle"

def scala : Profile where
  language := .scala
  identifiers := ["list", "map", "option", "future", "stream"]
  junkTemplates := [
    "def _0xdead(): Int = (0 until 100).filter(_ % 2 == 0).sum",
    "val _0xcafe: Int => Int = x => if (x > 0) x * 2 + 1 else 0"]
  canaryTemplate := block [
    "// Anti-tampering canary",
    "object IntegrityCheck \x7b",
    "  private val secretValue = 0x\x7bsecret\x7dL",
    "  def check(): Boolean = \x7b",
    "    if (secretValue != 0x\x7bsecret\x7dL) "
      ++ "throw new RuntimeException(\"TamperingDetected\")",
    "    true",
    "  \x7d",
    "\x7d"]
  mutationComment := "// AI-optimized Scala structure"
  buildTool := "SBT"
  executableExtension := ".jar"
  toolchainNote := "Requires Scala compiler and SBT"

def clojure : Profile where
  language := .clojure
  identifiers := ["vector", "map", "sequence", "atom", "ref"]
  junkTemplates := [
    block [
      "(defn _0xdead []",
      "  (reduce + (filter even? (range 100))))"],
    "(def _0xcafe (fn [x] (if (pos? x) (inc (* x 2)) 0)))"]
  canaryTemplate := block [
    ";; Anti-tampering canary",
    "(defn integrity-check []",
    "  (let [secret-value 0x\x7bsecret\x7d]",
    "    (when (not= secret-value 0x\x7bsecret\x7d)",
    "      (throw (Exception. \"TamperingDetected\")))",
    "    true))",
    "",
    "(def canary-active (integrity-check))"]
  mutationComment := ";; AI-optimized Clojure structure"
  buildTool := "Leiningen"
  executableExtension := ".jar"
  toolchainNote := "Requires Leiningen build tool"

def csharp : Profile where
  language := .csharp
  identifiers := ["object", "string", "list", "dictionary", "linq"]
  junkTemplates := [
    block [
      "public class _0xDummy \x7b",
      "    private int _0xvalue = 42;",
      "    public int _0xMethod() => _0xvalue;",
      "\x7d"],
    block [
      "public static void _0xHelper() \x7b",
      "    var _0xlist = new List<int> \x7b1, 2, 3\x7d;",
      "    _0xlist.ForEach(Console.WriteLine);",
      "\x7d"]]
  canaryTemplate := block [
    "// Anti-tampering canary functions",
    "public static class _IntegrityCheck \x7b",
    "    private static readonly int _secretValue = 0x\x7bsecret\x7d;",
    "",
    "    public static bool _Check() \x7b",
    "        if (_secretValue != 0x\x7bsecret\x7d) \x7b",
    "            throw new Exception(\"TamperingDetected\");",
    "        \x7d",
    "        return true;",
    "    \x7d",
    "\x7d",
    "",
    "private static readonly bool _canaryActive = _IntegrityCheck._Check();"]
  mutationComment := "// AI-optimized C# structure"
  buildTool := ".NET Core"
  executableExtension := ".exe"
  toolchainNote := "Requires .NET Core SDK for compilation"

def fsharp : Profile where
  language := .fsharp
  identifiers := ["list", "option", "sequence", "async", "computation"]
  junkTemplates := [
    "let _0xdead () = [0 .. 99] |> List.filter (fun i -> i % 2 = 0) "
      ++ "|> List.sum"]
  canaryTemplate := block [
    "// Anti-tampering canary",
    "let integrityCheck () =",
    "    let secretValue = 0x\x7bsecret\x7du",
    "    if secretValue <> 0x\x7bsecret\x7du then "
      ++ "failwith \"TamperingDetected\"",
    "    true"]
  mutationComment := "// AI-optimized F# structure"
  buildTool := ".NET Core"
  executableExtension := ".exe"
  toolchainNote := "Requires .NET Core SDK"

def visualbasic : Profile where
  language := .visualbasic
  identifiers := ["object", "string", "array", "collection", "module"]
  junkTemplates := [
    block [
      "Private Function x0xdead() As Integer",
      "    Dim x0xbeef As Integer = 0",
      "    For i As Integer = 0 To 98 Step 2",
      "        x0xbeef += i",
      "    Next",
      "    Return x0xbeef",
      "End Function"]]
  canaryTemplate := block [
    "' Anti-tampering canary",
    "Private Function IntegrityCheck() As Boolean",
    "    Const SecretValue As UInteger = &H\x7bsecret\x7dUI",
    "    If SecretValue <> &H\x7bsecret\x7dUI Then "
      ++ "Throw New Exception(\"TamperingDetected\")",
    "    Return True",
    "End Function"]
  mutationComment := "' AI-optimized Visual Basic structure"
  buildTool := ".NET Framework"
  executableExtension := ".exe"
  toolchainNote := "Requires .NET Framework"

def dart : Profile where
  language := .dart
  identifiers := ["list", "map", "string", "future", "stream"]
  junkTemplates := [
    block [
      "int _0xdummy() \x7b",
      "  final _0xlist = [1, 2, 3, 4, 5];",
      "  return _0xlist.where((i) => i.isEven).fold(0, (a, b) => a + b);",
      "\x7d"]]
  canaryTemplate := block [
    "// Anti-tampering canary functions",
    "const int _secretValue = 0x\x7bsecret\x7d;",
    "",
    "bool _integrityCheck() \x7b",
    "  if (_secretValue != 0x\x7bsecret\x7d) \x7b",
    "    throw StateError('TamperingDetected');",
    "  \x7d",
    "  return true;",
    "\x7d",
    "",
    "final bool _canaryActive = _integrityCheck();"]
  mutationComment := "// AI-optimized Dart structure"
  buildTool := "Dart Compile"
  executableExtension := ".exe"
  toolchainNote := "Requires Dart SDK"

end Obfuscator.Profile
