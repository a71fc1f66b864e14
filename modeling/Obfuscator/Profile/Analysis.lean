/-
Profiles of the languages for queries and for numerical work.
-/
import Obfuscator.Profile.Basic

namespace Obfuscator.Profile

open Text (block)

def sql : Profile where
  language := .sql
  identifiers := ["table", "column", "row", "query", "result"]
  junkTemplates := [
    block [
      "CREATE TEMPORARY TABLE _0xdead AS",
      "SELECT 1 AS _0xbeef UNION ALL SELECT 2;"],
    "SELECT COUNT(*) AS _0xcafe FROM (SELECT 1 AS _0xbabe) AS _0xfeed;"]
  canaryTemplate := block [
    "-- Anti-tampering canary",
    "SELECT CASE",
    "    WHEN x'\x7bsecret\x7d' = x'\x7bsecret\x7d' THEN 1",
    "    ELSE 1 / 0",
    "END AS _canary_active;"]
  mutationComment := "-- AI-optimized SQL structure"
  buildTool := "Database Engine"
  executableExtension := ".sql"
  toolchainNote := "SQL script file"

def r : Profile where
  language := .r
  identifiers := ["vector", "matrix", "dataframe", "list", "factor"]
  junkTemplates := [
    block [
      "x0xdead <- function() \x7b",
      "  x0xbeef <- Filter(function(i) i %% 2 == 0, 1:100)",
      "  sum(x0xbeef)",
      "\x7d"],
    "x0xcafe <- function(x) if (x > 0) x * 2 + 1 else 0"]
  canaryTemplate := block [
    "# Anti-tampering canary",
    ".integrity_check <- function() \x7b",
    "  .secret_value <- \"\x7bsecret\x7d\"",
    "  if (.secret_value != \"\x7bsecret\x7d\") stop(\"TamperingDetected\")",
    "  TRUE",
    "\x7d",
    ".canary_active <- .integrity_check()"]
  mutationComment := "# AI-optimized R structure"
  buildTool := "R Package"
  executableExtension := ".exe"
  toolchainNote := "Requires R and packaging tools"

def matlab : Profile where
  language := .matlab
  identifiers := ["matrix", "vector", "array", "function", "script"]
  junkTemplates := [
    block [
      "function _0xbeef = x0xdead()",
      "    _0xbeef = sum(0:2:98);",
      "end"]]
  canaryTemplate := block [
    "% Anti-tampering canary",
    "secretValue = hex2dec('\x7bsecret\x7d');",
    "if secretValue ~= hex2dec('\x7bsecret\x7d')",
    "    error('TamperingDetected');",
    "end"]
  mutationComment := "% AI-optimized MATLAB structure"
  buildTool := "MATLAB Compiler"
  executableExtension := ".exe"
  toolchainNote := "Requires MATLAB Compiler Runtime"

end Obfuscator.Profile
