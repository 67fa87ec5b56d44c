/-!
# UTF-8 with replacement

Bytes are read as UTF-8. A byte sequence that is no character becomes one replacement character for
as many bytes as could have begun one; reading goes on with the byte that did not fit.
-/

namespace SqlToolkit.Text.Utf8

/-- The character that stands for unreadable bytes. -/
def replacement : Char := Char.ofNat 0xfffd

/-- A character that is not complete: its bits so far, how many bytes are missing, and the bounds
of the next one. -/
structure Pending where
  code : Nat
  missing : Nat
  low : Nat
  high : Nat

/-- A byte that begins a character: a character of its own, a longer one, or none. -/
def start (byte : Nat) : List Char × Option Pending :=
  if byte < 0x80 then ([Char.ofNat byte], none)
  else if byte < 0xc2 then ([replacement], none)
  else if byte < 0xe0 then ([], some ⟨byte - 0xc0, 1, 0x80, 0xbf⟩)
  else if byte < 0xf0 then
    ([], some ⟨byte - 0xe0, 2, if byte = 0xe0 then 0xa0 else 0x80,
      if byte = 0xed then 0x9f else 0xbf⟩)
  else if byte < 0xf5 then
    ([], some ⟨byte - 0xf0, 3, if byte = 0xf0 then 0x90 else 0x80,
      if byte = 0xf4 then 0x8f else 0xbf⟩)
  else ([replacement], none)

/-- Reads the next byte. -/
def step (pending : Option Pending) (byte : Nat) : List Char × Option Pending :=
  match pending with
  | none => start byte
  | some state =>
    if state.low ≤ byte && byte ≤ state.high then
      let code := state.code * 64 + (byte - 0x80)
      if state.missing ≤ 1 then ([Char.ofNat code], none)
      else ([], some ⟨code, state.missing - 1, 0x80, 0xbf⟩)
    else
      let (chars, next) := start byte
      (replacement :: chars, next)

/-- What is left of a character that was not completed. -/
def flush (pending : Option Pending) : List Char :=
  if pending.isSome then [replacement] else []

end SqlToolkit.Text.Utf8
