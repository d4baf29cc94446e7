import Realtime.Text.Runs

/-!
# Writing directions

Every character has a class that tells how it takes part in laying out text of
both directions.
-/

namespace Realtime.Text

/-- The part a character takes in the direction of text. -/
inductive Direction where
  | leftToRight
  | rightToLeft
  | arabicLetter
  | arabicNumber
  | europeanNumber
  | europeanSeparator
  | europeanTerminator
  | commonSeparator
  | otherNeutral
  | boundaryNeutral
  | nonspacingMark
  /-- It separates lines, segments or words, or sets a direction itself. -/
  | layout
  deriving DecidableEq, Repr

namespace Direction

/-- The spellings of the classes. -/
def ofSpelling? (spelling : List Char) : Option Direction :=
  match String.ofList spelling with
  | "L" => some .leftToRight
  | "R" => some .rightToLeft
  | "AL" => some .arabicLetter
  | "AN" => some .arabicNumber
  | "EN" => some .europeanNumber
  | "ES" => some .europeanSeparator
  | "ET" => some .europeanTerminator
  | "CS" => some .commonSeparator
  | "ON" => some .otherNeutral
  | "BN" => some .boundaryNeutral
  | "NSM" => some .nonspacingMark
  | "X" => some .layout
  | _ => none

/-- The classes of all characters, of which those that no host name holds count
as their neighbours. -/
def runs : List (Run Direction) :=
  Run.ofText ofSpelling? "
  9BN 1X 1X 1X 1X 1X eBN 3X 1X 1X 2ON 3ET 5ON 1ES 1CS 1ES 2CS aEN 1CS 26ON 1aL 4ON 22BN 1ON 4ET
  aON 6ET 29ON 18L 1ON 1c1L 2ON 7L eON 2L 1cON 1L 11ON 71NSM 4L 2ON 7fL 2ON 8bL 8NSM ffL 5ON
  2ET 2dNSM 1R 1NSM 1R 2NSM 1R 2NSM 1R 9NSM 36R 2ON 1AL 2ET 1AL 1CS 1AL 2ON bNSM 30AL 15NSM aAN
  1ET 2AN 3AL 1NSM 65AL 8NSM 1ON 6NSM 2AL 2NSM 1ON 4NSM 2AL aEN 17AL 1NSM 1eAL 1dNSM 59AL bNSM
  fAL 2bR 9NSM 2R 4ON 3R 1NSM 18R 4NSM 1R 9NSM 1R 3NSM 1R 7NSM 29R 5NSM 2R 37AL 9NSM 2aAL 39NSM
  37L 1NSM 1L 1NSM 4L 8NSM 4L 1NSM 3L fNSM 2L 2NSM 1dL 1NSM 3aL 1NSM 4L 6NSM 6L 1NSM 14L 4NSM
  cL 2ET 7L 1ET 2L 5NSM 39L 2NSM 3L 1bNSM 14L 2NSM 3L 1NSM bL 2NSM 39L 1NSM 4L 8NSM 4L 3NSM 12L
  4NSM bL 8ET 1L 8NSM 3aL 1NSM 2L 1NSM 1L 6NSM 6L aNSM bL 4NSM 1cL 1NSM 3dL 1NSM cL 3NSM 23L
  6ON 1ET 6ON 1NSM 3L 1NSM 37L 1NSM 1L 3NSM 5L 12NSM aL 4NSM 12L 7ON 2L 1NSM 3aL 1NSM fL 9NSM
  dL 4NSM 1aL 2NSM 39L 2NSM 4L 5NSM 7L 1NSM 14L 4NSM 1bL 1NSM 48L 5NSM 3L 6NSM 59L 1NSM 2L bNSM
  1ET 7L 8NSM 62L 1NSM 2L 9NSM bL 8NSM 48L 2NSM 1bL 1NSM 1L 1NSM 1L 1NSM 4ON 33L eNSM 1L 5NSM
  1L 2NSM 5L 31NSM 8L 1NSM 66L 4NSM 1L 6NSM 1L 2NSM 2L 2NSM 19L 2NSM 4L 3NSM 10L 4NSM dL 1NSM
  2L 2NSM 6L 1NSM fL 1NSM 2bfL 3NSM 30L 10ON 60L 1ON 29aL 5ON 72L 3NSM 1dL 2NSM 1eL eNSM 12L
  eNSM 37L 7NSM 8L 1NSM 2L bNSM 7L 1ET 1L 3NSM 10L 20ON 75L 2NSM 22L 1NSM 76L 3NSM 4L 2NSM 9L
  1NSM 6L 7NSM 6ON 98L 22ON 17L 2NSM 2L 3NSM 38L 1NSM 1L 9NSM 1L 1NSM 2L 8NSM 6L dNSM 30L 54NSM
  30L 1NSM 1L 5NSM 1L 1NSM 5L 1NSM 28L 9NSM cL 2NSM 20L 4NSM 2L 2NSM 1L 3NSM 38L 1NSM 1L 2NSM
  3L 1NSM 1L 3NSM 3aL 8NSM 2L 5NSM 95L 3NSM 1L dNSM 1L 7NSM 4L 1NSM 6L 1NSM 3L 2NSM c6L 41NSM
  20bL 4BN 20ON 5ET fON 1CS 5bON 30ET 34NSM 2aON cET 14ON 3cL 88ON 1ES 1ET 122ON 45L 1aON 1L
  91ON 19L 26cON 1L 153ON 100L 296ON 1L 99ON b5L 7ON 3L 4NSM 6L 7ON 7fL 1NSM 60L 20NSM 205ON 3L
  19ON 9L 4NSM 2L 1ON 6L 4ON 2L 4ON 58L 4NSM 3L 1ON 5aL 1ON c4L 24ON 1bdcL 40ON 5690L 40ON 13dL
  3ON 5fL 4NSM 1ON aNSM 3ON 1dL 2NSM 50L 2NSM eL 23ON 65L 1ON 79L 1NSM 3L 1NSM 4L 1NSM 19L 2NSM
  1L 4ON 4NSM 8L 8ET 34L cON 44L aNSM 12L 12NSM dL 1NSM 26L 8NSM 19L bNSM 2eL 3NSM 30L 1NSM 2L
  4NSM 2L 2NSM 27L 1NSM 43L 6NSM 2L 2NSM 2L bNSM 3L 1NSM 8L 1NSM 2fL 1NSM 33L 1NSM 1L 3NSM 2L
  2NSM 5L 2NSM 1L 1NSM 2aL 2NSM 8L bNSM 69L 56ON 25L 1NSM 2L 1NSM 4L 3NSM 4f2eL 94NSM 18cAL
  52ON 3fAL 51ON 25NSM 2eON 18dAL 101L 1ON 3eL 4dON 3L 40ON 2dL 83NSM 60L 1NSM 1fEN 76L aNSM
  480L 11fR 1ON e1R fNSM 28R 8NSM a5R 6NSM 4eR 7ON 1c0R 24AL cNSM 10AN 29R 5NSM f2R 20AN 2bR
  2NSM 15R 38AL 6NSM 30R 16AL bNSM 1fAL 12R 4NSM 7aR 1L 1NSM 36L fNSM bL 14ON aL 1NSM 2L 2NSM
  aL 3NSM 31L 4NSM 2L 2NSM 7L eNSM 30L 3NSM 24L 5NSM 1L 9NSM 3dL 1NSM cL 2NSM 34L 9NSM aL 4NSM
  2L 1NSM 5fL 3NSM 2L 1NSM 1L 2NSM 6L 1NSM 2L 3fNSM 5fL 1NSM 3L dNSM 10L 2NSM 39L 2NSM 3L 1NSM
  25L 1aNSM 38L 19NSM 1L 1NSM eL 1fNSM 38L 8NSM 2L 3NSM 1L 1NSM 17L 1NSM 54L 6NSM 1L 1NSM 4L
  2NSM 1L 2NSM eeL 6NSM 4L 2NSM 1L 2NSM 1bL 24NSM 33L 8NSM 2L 1NSM 1L 2NSM 1fL 20ON 2bL 1NSM 1L
  1NSM 2L 6NSM 1L 1NSM 65L 3NSM 2L 4NSM 1L 9NSM ffL 9NSM 1L 2NSM 100L 2NSM 1L 1NSM 4L 1NSM 90L
  8NSM 4L 1NSM 20L 6NSM 2L 2NSM 28L 6NSM 2L 4NSM 8L 9NSM 1L 6NSM 2L 3NSM 2eL dNSM 1L 2NSM c6L
  60NSM 70L eNSM 54L 17NSM 1L 7NSM 1L 2NSM 1L 4bNSM 31L 15NSM 1L 9NSM 40L 3NSM 2L 1NSM 1L 1NSM
  15bL 2NSM bL 2NSM 34L 8NSM 2L 1NSM 1L 1NSM 17L 56NSM 25L 8ON 4ET 1eON 1441L 1NSM 6L 19NSM
  2cbeL 12NSM 9c0L 5NSM 3bL 7NSM 418L 1NSM 3fL 4NSM 4fL 1ON 1L cNSM 4cadL 2NSM 1261L 50NSM 217L
  3NSM 11L 8NSM 2L 7NSM 1eL 4NSM 3bL 59ON 3NSM 7bON 40L 60ON 6a0L 37NSM 4L 32NSM 8L 1NSM eL
  1NSM 16L 465NSM 100L 100NSM 30L 7NSM 177L 12NSM 2cL 4NSM fL 1d1ET 1cL 4NSM feL 2NSM f3L 1NSM
  2L 1NSM 7L 2NSM 5L 9NSM 102L d0R 52NSM 22R 7NSM 326R 27fAL 260ON 1dL 3ON 3dL 39ON 7aL 478ON
  4L 9bON 4L 137ON 4eL 154ON cL 29ON 7L 2eON 1L 7ON 8L eON 4L 9ON 7L dbON f0435L"

/-- The class of a character. -/
def of (c : Char) : Direction :=
  Run.valueOf runs .leftToRight c

/-- Whether a character of this class makes text run from right to left. -/
def turnsText : Direction → Bool
  | .rightToLeft => true
  | .arabicLetter => true
  | .arabicNumber => true
  | _ => false

/-- A class that fits in text of both directions. -/
def fitsBoth : Direction → Bool
  | .europeanNumber => true
  | .europeanSeparator => true
  | .europeanTerminator => true
  | .commonSeparator => true
  | .otherNeutral => true
  | .boundaryNeutral => true
  | .nonspacingMark => true
  | _ => false

end Direction

end Realtime.Text
