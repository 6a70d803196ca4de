import SourceOutline.Text.CaseMap
import SourceOutline.Text.CaseClass

/-!
# Change of case

`lower` and `upper` map whole texts with the full Unicode rules, so that a text may grow; a
capital sigma at the end of a word has its own lower case. `isAllUpper` is the test for a name
written in capitals.
-/

namespace SourceOutline.Text

/-- The next character that is not skipped has case. -/
def nextCased : List Char → Bool
  | [] => false
  | c :: r => if caseIgnorable.holds c then nextCased r else isCased c

/-- Lower case of a text whose preceding characters, last first, are `before`. -/
def lowerAfter (before : List Char) : List Char → List Char
  | [] => []
  | c :: r =>
    (if c = 'Σ' then [if nextCased before && !nextCased r then 'ς' else 'σ'] else lowerChar c)
      ++ lowerAfter (c :: before) r

/-- Lower case. -/
def lower (s : String) : String :=
  String.ofList (lowerAfter [] s.toList)

/-- Upper case. -/
def upper (s : String) : String :=
  String.ofList (s.toList.flatMap upperChar)

/-- Has an upper-case character and no lower-case or title-case one. -/
def isAllUpper (s : String) : Bool :=
  s.toList.any isUpper && !s.toList.any fun c => isLower c || isTitle c

end SourceOutline.Text
