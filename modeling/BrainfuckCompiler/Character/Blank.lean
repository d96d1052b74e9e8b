import BrainfuckCompiler.Character.Runs

/-!
# White space

The characters that separate words, in any script.
-/
namespace BrainfuckCompiler.Character

def blankRuns : Runs := [
  (0x09, 0x0d), (0x20, 0x20), (0x85, 0x85), (0xa0, 0xa0), (0x1680, 0x1680), (0x2000, 0x200a),
  (0x2028, 0x2029), (0x202f, 0x202f), (0x205f, 0x205f), (0x3000, 0x3000)]

def isBlank (code : Nat) : Bool := blankRuns.contains code

end BrainfuckCompiler.Character
