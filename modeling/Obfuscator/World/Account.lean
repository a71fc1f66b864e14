/-
The home directory of the user's account.

The system keeps one line for every account, with parts between colons: the
third is the number of the account, the sixth its home directory. The number
of the account that runs a program stands first on a line of the program's
status.
-/
namespace Obfuscator.World

/-- The number of the account, from the status of a program. -/
def accountNumber? (status : String) : Option String := do
  let line ← (status.splitOn "\n").find? fun line => line.startsWith "Uid:"
  (line.splitOn "\t")[1]?

/-- The home directory of an account, from the list of accounts. -/
def homeOfAccount? (accounts number : String) : Option String := do
  let account ← (accounts.splitOn "\n").find? fun line =>
    (line.splitOn ":")[2]? = some number
  (account.splitOn ":")[5]?

end Obfuscator.World
