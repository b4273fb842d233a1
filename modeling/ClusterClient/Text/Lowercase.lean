/-
  ClusterClient.Text.Lowercase — small letters for whole texts.

  Every character is mapped by itself, the capital sigma excepted: at the end of a word it
  becomes the final form. Marks and apostrophes are looked through when the end of a word is
  decided. The dotted capital I becomes a small i with a combining dot.
-/
import ClusterClient.Text.LetterCase

namespace ClusterClient.Text

/-- The small letter of a character beyond ASCII, or the character itself. -/
def smallLetterBeyondAscii (c : Char) : Char :=
  let n := c.toNat
  match smallLetterRuns.find? fun r =>
      decide (r.1 ≤ n ∧ n ≤ r.2.1 ∧ (n - r.1) % r.2.2.1 = 0) with
  | some r => Char.ofNat (Int.toNat (n + r.2.2.2))
  | none => c

/-- The small letters of one character, wherever it stands. -/
def smallLetters (c : Char) : List Char :=
  if c.toNat < 0x80 then [c.toLower]
  else if c = '\u0130' then ['i', '\u0307']
  else [smallLetterBeyondAscii c]

/-- Whether a letter with a case comes first, ignorable characters being looked through. -/
def startsCased (cs : List Char) : Bool :=
  match cs.dropWhile fun c => caseIgnorable.holds c.toNat with
  | [] => false
  | c :: _ => casedLetters.holds c.toNat

/-- The text in small letters. -/
def lowercase (s : String) : String :=
  String.ofList (go [] s.toList)
where
  /-- The characters before the current one are kept nearest first. -/
  go (before : List Char) : List Char → List Char
    | [] => []
    | c :: rest =>
      (if c = 'Σ' then
        [if startsCased before && !startsCased rest then 'ς' else 'σ']
      else smallLetters c) ++ go (c :: before) rest

end ClusterClient.Text
