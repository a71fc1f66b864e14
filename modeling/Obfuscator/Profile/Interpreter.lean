/-
Profiles of the languages that are read by an interpreter, shells among them.
-/
import Obfuscator.Profile.Basic

namespace Obfuscator.Profile

open Text (block)

def python : Profile where
  language := .python
  identifiers := ["self", "args", "kwargs", "obj", "instance", "cls"]
  junkTemplates := [
    block [
      "def _0xdead():",
      "    _0xbeef = [i for i in range(100) if i % 2 == 0]",
      "    return sum(_0xbeef)"],
    block [
      "def _0xcafe():",
      "    _0xbabe = \x7b\"a\": 1, \"b\": 2, \"c\": 3\x7d",
      "    return len(_0xbabe.keys())"],
    "_0xfeed = lambda x: x * 2 + 1 if x > 0 else 0"]
  canaryTemplate := block [
    "# Anti-tampering canary functions",
    "def _integrity_check():",
    "    _secret_value = 0x\x7bsecret\x7d",
    "    if _secret_value != 0x\x7bsecret\x7d:",
    "        raise Exception(\"TamperingDetected\")",
    "    return True",
    "",
    "_canary_active = _integrity_check()"]
  mutationComment := "# AI-optimized Python structure"
  buildTool := "PyInstaller"
  executableExtension := ".exe"
  toolchainNote := "Requires PyInstaller for executable generation"

def php : Profile where
  language := .php
  identifiers := ["array", "object", "string", "session", "request"]
  junkTemplates := [
    block [
      "function _0xdummy() \x7b",
      "    $_0xarray = [1, 2, 3, 4, 5];",
      "    return array_sum($_0xarray);",
      "\x7d"],
    block [
      "class _0xDummyClass \x7b",
      "    private $_0xvalue = 42;",
      "    public function _0xmethod() \x7b return $this->_0xvalue; \x7d",
      "\x7d"]]
  canaryTemplate := block [
    "<?php",
    "// Anti-tampering canary functions",
    "function _integrityCheck() \x7b",
    "    $_secretValue = 0x\x7bsecret\x7d;",
    "    if ($_secretValue !== 0x\x7bsecret\x7d) \x7b",
    "        throw new Exception(\"TamperingDetected\");",
    "    \x7d",
    "    return true;",
    "\x7d",
    "",
    "$_canaryActive = _integrityCheck();",
    "?>"]
  mutationComment := "// AI-optimized PHP structure"
  buildTool := "PHP Phar"
  executableExtension := ".phar"
  toolchainNote := "Requires PHP for Phar archive creation"

def ruby : Profile where
  language := .ruby
  identifiers := ["array", "hash", "string", "symbol", "block"]
  junkTemplates := [
    block [
      "def _0xdummy",
      "    _0xarray = [1, 2, 3, 4, 5]",
      "    _0xarray.sum",
      "end"],
    block [
      "class _0xDummyClass",
      "    def initialize",
      "        @_0xvalue = 42",
      "    end",
      "end"]]
  canaryTemplate := block [
    "# Anti-tampering canary functions",
    "def _integrity_check",
    "    _secret_value = 0x\x7bsecret\x7d",
    "    if _secret_value != 0x\x7bsecret\x7d",
    "        raise \"TamperingDetected\"",
    "    end",
    "    true",
    "end",
    "",
    "_canary_active = _integrity_check"]
  mutationComment := "# AI-optimized Ruby structure"
  buildTool := "Ruby Gem"
  executableExtension := ".exe"
  toolchainNote := "Requires Ruby and gem packaging tools"

def perl : Profile where
  language := .perl
  identifiers := ["scalar", "array", "hash", "reference", "subroutine"]
  junkTemplates := [
    block [
      "sub _0xdead \x7b",
      "    my @_0xbeef = grep \x7b $_ % 2 == 0 \x7d 0 .. 99;",
      "    my $_0xcafe = 0;",
      "    $_0xcafe += $_ for @_0xbeef;",
      "    return $_0xcafe;",
      "\x7d"]]
  canaryTemplate := block [
    "# Anti-tampering canary functions",
    "my $_secret_value = 0x\x7bsecret\x7d;",
    "die \"TamperingDetected\" if $_secret_value != 0x\x7bsecret\x7d;"]
  mutationComment := "# AI-optimized Perl structure"
  buildTool := "PAR::Packer"
  executableExtension := ".exe"
  toolchainNote := "Requires PAR::Packer for executable"

def lua : Profile where
  language := .lua
  identifiers := ["table", "function", "string", "number", "userdata"]
  junkTemplates := [
    block [
      "local function _0xdummy()",
      "    local _0xsum = 0",
      "    for i = 1, 100 do",
      "        if i % 2 == 0 then _0xsum = _0xsum + i end",
      "    end",
      "    return _0xsum",
      "end"]]
  canaryTemplate := block [
    "-- Anti-tampering canary functions",
    "local _secret_value = 0x\x7bsecret\x7d",
    "",
    "local function _integrity_check()",
    "    if _secret_value ~= 0x\x7bsecret\x7d then",
    "        error(\"TamperingDetected\")",
    "    end",
    "    return true",
    "end",
    "",
    "local _canary_active = _integrity_check()"]
  mutationComment := "-- AI-optimized Lua structure"
  buildTool := "Lua Compiler"
  executableExtension := ".exe"
  toolchainNote := "Requires Lua compiler"

def shell : Profile where
  language := .shell
  identifiers := ["variable", "argument", "parameter", "script", "command"]
  junkTemplates := [
    block [
      "_0xdummy() \x7b",
      "    local _0xsum=0",
      "    for i in 1 2 3 4 5; do _0xsum=$((_0xsum + i)); done",
      "    echo \"$_0xsum\" > /dev/null",
      "\x7d"]]
  canaryTemplate := block [
    "# Anti-tampering canary functions",
    "_secret_value=$((0x\x7bsecret\x7d))",
    "if [ \"$_secret_value\" -ne $((0x\x7bsecret\x7d)) ]; then",
    "    echo \"TamperingDetected\" >&2",
    "    exit 1",
    "fi"]
  mutationComment := "# AI-optimized Shell structure"
  buildTool := "Shebang"
  executableExtension := ".sh"
  toolchainNote := "Executable shell script"

def powershell : Profile where
  language := .powershell
  identifiers := ["object", "cmdlet", "parameter", "pipeline", "script"]
  junkTemplates := [
    block [
      "function Get-0xDead \x7b",
      "    $_0xbeef = 0..99 | Where-Object \x7b $_ % 2 -eq 0 \x7d",
      "    return ($_0xbeef | Measure-Object -Sum).Sum",
      "\x7d"]]
  canaryTemplate := block [
    "# Anti-tampering canary functions",
    "$_secretValue = 0x\x7bsecret\x7d",
    "if ($_secretValue -ne 0x\x7bsecret\x7d) \x7b",
    "    throw \"TamperingDetected\"",
    "\x7d"]
  mutationComment := "# AI-optimized PowerShell structure"
  buildTool := "PowerShell"
  executableExtension := ".ps1"
  toolchainNote := "PowerShell script file"

end Obfuscator.Profile
