/-
Profiles of the languages of web pages, and of the frameworks built on them.
-/
import Obfuscator.Profile.Basic

namespace Obfuscator.Profile

open Text (block)

/-- What packaging takes for a framework of web pages. -/
def electronNote : String :=
  "Requires Electron for desktop app packaging"

/-- The integrity check of plain scripts and of the frameworks. -/
def webCanary : String :=
  block [
    "// Anti-tampering canary functions",
    "function _integrityCheck() \x7b",
    "    const _secretValue = 0x\x7bsecret\x7d;",
    "    if (_secretValue !== 0x\x7bsecret\x7d) \x7b",
    "        throw new Error(\"TamperingDetected\");",
    "    \x7d",
    "    return true;",
    "\x7d",
    "",
    "const _canaryActive = _integrityCheck();"]

def javascript : Profile where
  language := .javascript
  identifiers :=
    ["document", "window", "console", "element", "event", "callback",
      "promise"]
  junkTemplates := [
    block [
      "function _0xdead() \x7b",
      "    const _0xbeef = Array.from(\x7blength: 100\x7d, (_, i) => i)"
        ++ ".filter(i => i % 2 === 0);",
      "    return _0xbeef.reduce((a, b) => a + b, 0);",
      "\x7d"],
    block [
      "const _0xcafe = () => \x7b",
      "    const _0xbabe = \x7ba: 1, b: 2, c: 3\x7d;",
      "    return Object.keys(_0xbabe).length;",
      "\x7d;"],
    "const _0xfeed = (x) => x > 0 ? x * 2 + 1 : 0;"]
  canaryTemplate := webCanary
  mutationComment := "// AI-optimized JavaScript structure"
  buildTool := "Node.js/pkg"
  executableExtension := ".exe"
  toolchainNote := "Requires Node.js and pkg for executable generation"

def typescript : Profile where
  language := .typescript
  identifiers := ["interface", "type", "generic", "module", "namespace"]
  junkTemplates := [
    block [
      "interface _0xInterface \x7b",
      "    _0xprop: number;",
      "    _0xmethod(): string;",
      "\x7d"],
    block [
      "function _0xgeneric<T>(_0xparam: T): T \x7b",
      "    return _0xparam;",
      "\x7d"],
    block [
      "const _0xenum = \x7b",
      "    _0xvalue1: 1,",
      "    _0xvalue2: 2",
      "\x7d as const;"]]
  canaryTemplate := block [
    "// Anti-tampering canary functions",
    "function _integrityCheck(): boolean \x7b",
    "    const _secretValue: number = 0x\x7bsecret\x7d;",
    "    if (_secretValue !== 0x\x7bsecret\x7d) \x7b",
    "        throw new Error(\"TamperingDetected\");",
    "    \x7d",
    "    return true;",
    "\x7d",
    "",
    "const _canaryActive: boolean = _integrityCheck();"]
  mutationComment := "// AI-optimized TypeScript structure"
  buildTool := "Node.js/pkg"
  executableExtension := ".exe"
  toolchainNote := "Requires TypeScript compilation and pkg"

def react : Profile where
  language := .react
  identifiers := ["props", "state", "component", "hook", "context", "ref"]
  junkTemplates := [
    block [
      "const _0xDummyComponent = () => \x7b",
      "    const [_0xstate, _0xsetState] = useState(0);",
      "    return <div>\x7b_0xstate\x7d</div>;",
      "\x7d;"],
    block [
      "const _0xhook = () => \x7b",
      "    useEffect(() => \x7b",
      "        console.log('_0xeffect');",
      "    \x7d, []);",
      "\x7d;"]]
  canaryTemplate := webCanary
  mutationComment := "// AI-optimized React structure"
  buildTool := "Electron"
  executableExtension := ".exe"
  toolchainNote := electronNote

def vue : Profile where
  language := .vue
  identifiers := ["computed", "watch", "mounted", "props", "emit"]
  junkTemplates := [
    block [
      "const _0xcomponent = \x7b",
      "    data() \x7b",
      "        return \x7b _0xvalue: 42 \x7d;",
      "    \x7d,",
      "    computed: \x7b",
      "        _0xcomputed() \x7b return this._0xvalue * 2; \x7d",
      "    \x7d",
      "\x7d;"]]
  canaryTemplate := webCanary
  mutationComment := "// AI-optimized Vue structure"
  buildTool := "Electron"
  executableExtension := ".exe"
  toolchainNote := electronNote

def svelte : Profile where
  language := .svelte
  identifiers := ["store", "reactive", "derived"]
  junkTemplates := [
    block [
      "let _0xvalue = 42;",
      "$: _0xcomputed = _0xvalue * 2;"],
    block [
      "function _0xhandler() \x7b",
      "    _0xvalue += 1;",
      "\x7d"]]
  canaryTemplate := webCanary
  mutationComment := "// AI-optimized Svelte structure"
  buildTool := "Electron"
  executableExtension := ".exe"
  toolchainNote := electronNote

def elm : Profile where
  language := .elm
  identifiers := ["list", "maybe", "result", "model", "message"]
  junkTemplates := [
    block [
      "x0xdead : Int",
      "x0xdead =",
      "    List.range 0 99 |> List.filter (\\i -> modBy 2 i == 0) "
        ++ "|> List.sum"]]
  canaryTemplate := block [
    "-- Anti-tampering canary",
    "integrityCheck : Bool",
    "integrityCheck =",
    "    let",
    "        secretValue = 0x\x7bsecret\x7d",
    "    in",
    "    secretValue == 0x\x7bsecret\x7d"]
  mutationComment := "-- AI-optimized Elm structure"
  buildTool := "Elm Make"
  executableExtension := ".js"
  toolchainNote := "Compiles to JavaScript"

end Obfuscator.Profile
