import SqlToolkit.Text.CaseMap

/-!
# Letters compared without case

Two characters are the same letter when their small forms have the same key. The key also joins
the long `ſ` with `s`, the dotless `ı` with `i`, and the variant forms of some Greek and Cyrillic
letters.
-/

namespace SqlToolkit.Text

/-- Small letters that stand for another letter when case is ignored. -/
def letterVariants : List (Nat × Nat) :=
  [(0x131, 0x69), (0x17f, 0x73), (0x3bc, 0xb5), (0x3b9, 0x345), (0x1fbe, 0x345), (0x1fd3, 0x390),
   (0x1fe3, 0x3b0), (0x3d0, 0x3b2), (0x3f5, 0x3b5), (0x3d1, 0x3b8), (0x3f0, 0x3ba), (0x3d6, 0x3c0),
   (0x3f1, 0x3c1), (0x3c3, 0x3c2), (0x3d5, 0x3c6), (0x1c80, 0x432), (0x1c81, 0x434),
   (0x1c82, 0x43e), (0x1c83, 0x441), (0x1c84, 0x442), (0x1c85, 0x442), (0x1c86, 0x44a),
   (0x1c87, 0x463), (0xa64b, 0x1c88), (0x1e9b, 0x1e61), (0xfb06, 0xfb05)]

/-- The key under which a character is compared when case is ignored. -/
def caseKey (c : Char) : Char :=
  if c.toNat < 128 then c.toLower
  else
    let small := lowerLetter c
    match letterVariants.lookup small.toNat with
    | some key => Char.ofNat key
    | none => small

def sameLetter (a b : Char) : Bool := caseKey a == caseKey b

theorem caseKey_of_ascii {c : Char} (h : c.toNat < 128) : caseKey c = c.toLower := by
  simp [caseKey, h]

/-- Letters of the Latin alphabet with the accented letters of Latin-1 up to `ü`. -/
def isNameLetter (c : Char) : Bool :=
  let key := (caseKey c).toNat
  (0x61 ≤ key && key ≤ 0x7a) || (0xe0 ≤ key && key ≤ 0xfc && key != 0xf7) || key == 0xd7

end SqlToolkit.Text
