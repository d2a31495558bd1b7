import InferenceReconciler.EscapedCharacters

/-!
# Quoted texts in messages

A text named in a message stands between quotes, with quotes, backslashes and line
breaks escaped and every character without a printed form shown by its number.
-/

namespace InferenceReconciler

/-- The digits of `n` in base sixteen, small letters, no leading zero. -/
def hexDigits (n : Nat) : List Char :=
  Nat.toDigits 16 n

def quotedLetter (c : Char) : List Char :=
  if c = '"' then ['\\', '"']
  else if c = '\\' then ['\\', '\\']
  else if c = '\n' then ['\\', 'n']
  else if c = '\r' then ['\\', 'r']
  else if c = '\t' then ['\\', 't']
  else if c.toNat = 0 then ['\\', '0']
  else if hasNoPrintedForm c then
    ['\\', 'u', '\x7b'] ++ hexDigits c.toNat ++ ['\x7d']
  else [c]

def quoted (s : String) : String :=
  String.ofList ('"' :: s.toList.flatMap quotedLetter ++ ['"'])

end InferenceReconciler
