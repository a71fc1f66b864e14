/-
Profiles of the languages that compile to machine code.
-/
import Obfuscator.Profile.Basic

namespace Obfuscator.Profile

open Text (block)

def c : Profile where
  language := .c
  identifiers := ["ptr", "buffer", "size", "length", "malloc"]
  junkTemplates := [
    block [
      "void _0xdummy() \x7b",
      "    int _0xarray[10];",
      "    for(int i = 0; i < 10; i++) \x7b",
      "        _0xarray[i] = i * 2;",
      "    \x7d",
      "\x7d"],
    block [
      "int _0xhelper(int _0xval) \x7b",
      "    return _0xval > 0 ? _0xval * 2 : 0;",
      "\x7d"]]
  canaryTemplate := block [
    "// Anti-tampering canary functions",
    "static const int _secret_value = 0x\x7bsecret\x7d;",
    "",
    "int _integrity_check() \x7b",
    "    if (_secret_value != 0x\x7bsecret\x7d) \x7b",
    "        exit(1); // Tampering detected",
    "    \x7d",
    "    return 1;",
    "\x7d",
    "",
    "static const int _canary_active = _integrity_check();"]
  mutationComment := "// AI-optimized C structure"
  buildTool := "GCC/Clang"
  executableExtension := ".exe"
  toolchainNote := "Requires GCC or Clang compiler"

def cpp : Profile where
  language := .cpp
  identifiers := ["vector", "string", "iterator", "pointer", "reference"]
  junkTemplates := [
    block [
      "void _0xdummy() \x7b",
      "    std::vector<int> _0xvec = \x7b1, 2, 3, 4, 5\x7d;",
      "    std::sort(_0xvec.begin(), _0xvec.end());",
      "\x7d"],
    block [
      "template<typename T>",
      "T _0xgeneric(T _0xval) \x7b",
      "    return _0xval;",
      "\x7d"]]
  canaryTemplate := block [
    "// Anti-tampering canary functions",
    "namespace _canary \x7b",
    "    const int _secret_value = 0x\x7bsecret\x7d;",
    "",
    "    bool _integrity_check() \x7b",
    "        if (_secret_value != 0x\x7bsecret\x7d) \x7b",
    "            throw std::runtime_error(\"TamperingDetected\");",
    "        \x7d",
    "        return true;",
    "    \x7d",
    "",
    "    static const bool _canary_active = _integrity_check();",
    "\x7d"]
  mutationComment := "// AI-optimized C++ structure"
  buildTool := "CMake/Make"
  executableExtension := ".exe"
  toolchainNote := "Requires GCC or Clang compiler"

def rust : Profile where
  language := .rust
  identifiers := ["vec", "string", "option", "result", "iterator"]
  junkTemplates := [
    block [
      "fn _0xdummy() \x7b",
      "    let _0xvec: Vec<i32> = vec![1, 2, 3, 4, 5];",
      "    let _0xsum: i32 = _0xvec.iter().sum();",
      "\x7d"],
    block [
      "fn _0xhelper(_0xval: i32) -> i32 \x7b",
      "    if _0xval > 0 \x7b _0xval * 2 \x7d else \x7b 0 \x7d",
      "\x7d"]]
  canaryTemplate := block [
    "// Anti-tampering canary functions",
    "const _SECRET_VALUE: u32 = 0x\x7bsecret\x7d;",
    "",
    "fn _integrity_check() -> bool \x7b",
    "    if _SECRET_VALUE != 0x\x7bsecret\x7d \x7b",
    "        panic!(\"TamperingDetected\");",
    "    \x7d",
    "    true",
    "\x7d",
    "",
    "static _CANARY_ACTIVE: bool = _integrity_check();"]
  mutationComment := "// AI-optimized Rust structure"
  buildTool := "Cargo"
  executableExtension := ".exe"
  toolchainNote := "Requires Rust toolchain and Cargo"

def go : Profile where
  language := .go
  identifiers := ["slice", "channel", "goroutine", "interface", "struct"]
  junkTemplates := [
    block [
      "func _0xdummy() \x7b",
      "    _0xslice := []int\x7b1, 2, 3, 4, 5\x7d",
      "    sort.Ints(_0xslice)",
      "\x7d"],
    block [
      "func _0xhelper(_0xval int) int \x7b",
      "    if _0xval > 0 \x7b",
      "        return _0xval * 2",
      "    \x7d",
      "    return 0",
      "\x7d"]]
  canaryTemplate := block [
    "// Anti-tampering canary functions",
    "package main",
    "",
    "const _secretValue = 0x\x7bsecret\x7d",
    "",
    "func _integrityCheck() bool \x7b",
    "    if _secretValue != 0x\x7bsecret\x7d \x7b",
    "        panic(\"TamperingDetected\")",
    "    \x7d",
    "    return true",
    "\x7d",
    "",
    "var _canaryActive = _integrityCheck()"]
  mutationComment := "// AI-optimized Go structure"
  buildTool := "Go Build"
  executableExtension := ".exe"
  toolchainNote := "Requires Go compiler for executable generation"

def zig : Profile where
  language := .zig
  identifiers := ["array", "slice", "struct", "union", "comptime"]
  junkTemplates := [
    block [
      "fn _0xdead() u32 \x7b",
      "    var _0xbeef: u32 = 0;",
      "    var i: u32 = 0;",
      "    while (i < 100) : (i += 2) _0xbeef += i;",
      "    return _0xbeef;",
      "\x7d"]]
  canaryTemplate := block [
    "// Anti-tampering canary",
    "fn integrityCheck() bool \x7b",
    "    const secret_value: u32 = 0x\x7bsecret\x7d;",
    "    if (secret_value != 0x\x7bsecret\x7d) @panic(\"TamperingDetected\");",
    "    return true;",
    "\x7d"]
  mutationComment := "// AI-optimized Zig structure"
  buildTool := "Zig Build"
  executableExtension := ".exe"
  toolchainNote := "Requires Zig compiler"

def d : Profile where
  language := .d
  identifiers := ["array", "string", "struct", "class", "template"]
  junkTemplates := [
    block [
      "int _0xdead() \x7b",
      "    import std.algorithm : filter, sum;",
      "    import std.range : iota;",
      "    return iota(100).filter!(i => i % 2 == 0).sum;",
      "\x7d"]]
  canaryTemplate := block [
    "// Anti-tampering canary",
    "bool integrityCheck() \x7b",
    "    immutable uint secretValue = 0x\x7bsecret\x7d;",
    "    if (secretValue != 0x\x7bsecret\x7d) "
      ++ "throw new Exception(\"TamperingDetected\");",
    "    return true;",
    "\x7d"]
  mutationComment := "// AI-optimized D structure"
  buildTool := "DMD/LDC"
  executableExtension := ".exe"
  toolchainNote := "Requires D compiler"

def nim : Profile where
  language := .nim
  identifiers := ["seq", "string", "object", "proc", "template"]
  junkTemplates := [
    block [
      "proc x0xdead(): int =",
      "  for i in countup(0, 98, 2):",
      "    result += i"]]
  canaryTemplate := block [
    "# Anti-tampering canary",
    "proc integrityCheck(): bool =",
    "  const secretValue = 0x\x7bsecret\x7d",
    "  if secretValue != 0x\x7bsecret\x7d:",
    "    raise newException(Exception, \"TamperingDetected\")",
    "  true",
    "",
    "let canaryActive = integrityCheck()"]
  mutationComment := "# AI-optimized Nim structure"
  buildTool := "Nim Compiler"
  executableExtension := ".exe"
  toolchainNote := "Requires Nim compiler"

def assembly : Profile where
  language := .assembly
  identifiers := ["register", "memory", "stack", "heap", "instruction"]
  junkTemplates := [
    block [
      "_0xdead:",
      "    xor eax, eax",
      "    mov ecx, 50",
      "_0xbeef:",
      "    add eax, ecx",
      "    loop _0xbeef",
      "    ret"]]
  canaryTemplate := block [
    "; Anti-tampering canary",
    "_integrity_check:",
    "    mov eax, 0x\x7bsecret\x7d",
    "    cmp eax, 0x\x7bsecret\x7d",
    "    jne _tampering_detected",
    "    ret"]
  mutationComment := "; AI-optimized Assembly structure"
  buildTool := "NASM/GAS"
  executableExtension := ".exe"
  toolchainNote := "Requires assembler and linker"

def swift : Profile where
  language := .swift
  identifiers := ["array", "dictionary", "string", "optional", "closure"]
  junkTemplates := [
    block [
      "func _0xdummy() \x7b",
      "    let _0xarray = [1, 2, 3, 4, 5]",
      "    let _0xsum = _0xarray.reduce(0, +)",
      "\x7d"],
    block [
      "class _0xDummyClass \x7b",
      "    private var _0xvalue = 42",
      "    func _0xmethod() -> Int \x7b return _0xvalue \x7d",
      "\x7d"]]
  canaryTemplate := block [
    "// Anti-tampering canary functions",
    "private let _secretValue: UInt32 = 0x\x7bsecret\x7d",
    "",
    "func _integrityCheck() -> Bool \x7b",
    "    if _secretValue != 0x\x7bsecret\x7d \x7b",
    "        fatalError(\"TamperingDetected\")",
    "    \x7d",
    "    return true",
    "\x7d",
    "",
    "private let _canaryActive = _integrityCheck()"]
  mutationComment := "// AI-optimized Swift structure"
  buildTool := "Xcode"
  executableExtension := ".app"
  toolchainNote := "Requires Xcode or Swift compiler"

def pascal : Profile where
  language := .pascal
  identifiers := ["array", "record", "pointer", "string", "procedure"]
  junkTemplates := [
    block [
      "function x0xdead: Integer;",
      "var i: Integer;",
      "begin",
      "  Result := 0;",
      "  for i := 0 to 49 do",
      "    Result := Result + i * 2;",
      "end;"]]
  canaryTemplate := block [
    "\x7b Anti-tampering canary \x7d",
    "function IntegrityCheck: Boolean;",
    "const",
    "  SecretValue = $\x7bsecret\x7d;",
    "begin",
    "  if SecretValue <> $\x7bsecret\x7d then",
    "    raise Exception.Create('TamperingDetected');",
    "  Result := True;",
    "end;"]
  mutationComment := "\x7b AI-optimized Pascal structure \x7d"
  buildTool := "Free Pascal"
  executableExtension := ".exe"
  toolchainNote := "Requires Free Pascal compiler"

def haskell : Profile where
  language := .haskell
  identifiers := ["list", "maybe", "either", "monad", "functor"]
  junkTemplates := [
    block [
      "_0xdead :: Int",
      "_0xdead = sum (filter even [0 .. 99])"],
    block [
      "_0xcafe :: Int -> Int",
      "_0xcafe x = if x > 0 then x * 2 + 1 else 0"]]
  canaryTemplate := block [
    "-- Anti-tampering canary",
    "integrityCheck :: Bool",
    "integrityCheck =",
    "  let secretValue = 0x\x7bsecret\x7d :: Integer",
    "  in if secretValue /= 0x\x7bsecret\x7d then "
      ++ "error \"TamperingDetected\" else True"]
  mutationComment := "-- AI-optimized Haskell structure"
  buildTool := "Cabal/Stack"
  executableExtension := ".exe"
  toolchainNote := "Requires Glasgow Haskell Compiler"

def ocaml : Profile where
  language := .ocaml
  identifiers := ["list", "option", "variant", "record", "module"]
  junkTemplates := [
    block [
      "let _0xdead () =",
      "  List.init 100 (fun i -> i) |> List.filter (fun i -> i mod 2 = 0) "
        ++ "|> List.fold_left (+) 0"]]
  canaryTemplate := block [
    "(* Anti-tampering canary *)",
    "let integrity_check () =",
    "  let secret_value = 0x\x7bsecret\x7d in",
    "  if secret_value <> 0x\x7bsecret\x7d then "
      ++ "failwith \"TamperingDetected\";",
    "  true",
    "",
    "let canary_active = integrity_check ()"]
  mutationComment := "(* AI-optimized OCaml structure *)"
  buildTool := "Dune"
  executableExtension := ".exe"
  toolchainNote := "Requires OCaml compiler"

end Obfuscator.Profile
