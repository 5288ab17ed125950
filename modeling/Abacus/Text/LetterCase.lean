import Abacus.Text.CaseTable

/-!
# Letter case

The names in the environment are looked up without regard to letter case (specification §10).
`upper` and `lower` map a text to capitals and to small letters by the full mappings of the Unicode
standard, in which a character may become several. A capital sigma becomes a final sigma behind a
cased character unless a cased character follows it.
-/

namespace Abacus.Text

/-- The character that a character is mapped to by the first run that has it. -/
def mapByRuns (runs : List CaseRun) (c : Char) : Char :=
  match runs.find? fun run =>
      run.first ≤ c.toNat && c.toNat ≤ run.last && (c.toNat - run.first) % run.step = 0 with
  | some run => Char.ofNat (c.toNat + run.shift).toNat
  | none => c

/-- The capital form of a character. -/
def upperChar (c : Char) : List Char :=
  match upperExpansions.lookup c.toNat with
  | some codes => codes.map Char.ofNat
  | none => [mapByRuns upperRuns c]

/-- A text in capitals. -/
def upper (s : String) : String :=
  String.ofList (s.toList.flatMap upperChar)

/-- Whether a code point lies in one of the runs. -/
def inRuns (runs : List (Nat × Nat)) (c : Char) : Bool :=
  runs.any fun run => run.1 ≤ c.toNat && c.toNat ≤ run.2

/-- Whether the first character that is not passed over is a cased one. -/
def startsCased (cs : List Char) : Bool :=
  ((cs.dropWhile (inRuns caseIgnorableRuns)).head?.map (inRuns casedRuns)).getD false

/-- The small form of a character between the characters before it, nearest first, and those behind
it. -/
def lowerChar (before : List Char) (c : Char) (after : List Char) : List Char :=
  if c = 'Σ' then
    if startsCased before && !startsCased after then ['ς'] else ['σ']
  else if c = 'İ' then ['i', '\u0307']
  else [mapByRuns lowerRuns c]

/-- The small forms of characters that stand behind the given ones, nearest first. -/
def lowerFrom (before : List Char) : List Char → List Char
  | [] => []
  | c :: cs => lowerChar before c cs ++ lowerFrom (c :: before) cs

/-- A text in small letters. -/
def lower (s : String) : String :=
  String.ofList (lowerFrom [] s.toList)

end Abacus.Text
