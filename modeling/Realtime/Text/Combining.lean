import Realtime.Text.Runs

/-!
# Combining marks

A mark changes the character before it. Marks that go to different places
around their base, say above and below, may come in either order and still look
the same; the combining class of a mark tells its place and the order in which
marks are written.
-/

namespace Realtime.Text

/-- How a character stands to the one before it. -/
inductive Combining where
  /-- It stands on its own. -/
  | base
  /-- It is a mark of a class. Marks of class zero keep their place. -/
  | mark (order : Nat)
  deriving DecidableEq, Repr

namespace Combining

/-- `N` spells a base, and `M` with a decimal class a mark. -/
def ofSpelling? : List Char → Option Combining
  | ['N'] => some .base
  | 'M' :: order => (String.ofList order).toNat?.map .mark
  | _ => none

/-- The classes of all characters, of which those that no host name holds count
as their neighbours. -/
def runs : List (Run Combining) :=
  Run.ofText ofSpelling? "
  300N 15M230 1M232 4M220 1M232 1M216 5M220 2M202 4M220 2M202 bM220 5M1 4M220 aM230 3M220 3M230
  3M220 3M230 4M220 1M230 1M232 2M220 1M230 1M233 2M234 1M233 2M234 1M233 eM230 112N 5M230 3M0
  106N 1M220 4M230 1M220 3M230 1M222 1M220 6M230 6M220 2M230 1M220 2M230 1M222 1M228 1M230 1M10
  1M11 1M12 1M13 1M14 1M15 1M16 1M17 1M18 2M19 1M20 1M21 1M22 1N 1M23 1N 1M24 1M25 1N 1M230
  1M220 1N 9M18 40N 8M230 1M30 1M31 1M32 30N 1M27 1M28 1M29 1M30 1M31 1M32 1M33 1M34 2M230
  2M220 5M230 1M220 2M230 1M220 10N 1M35 65N 8M230 1N 4M230 1M220 1M230 2N 2M230 1N 1M220 2M230
  1M220 23N 1M36 1eN 1M230 1M220 2M230 1M220 2M230 3M220 1M230 2M220 1M230 1M220 3M230 1M220
  1M230 1M220 1M230 1M220 1M230 1M220 4M230 59N bM0 3aN 7M230 1M220 1M230 9N 1M220 18N 4M230 1N
  9M230 1N 3M230 1N 7M230 29N 5M220 39N 2M230 3M220 4M230 2aN 5M230 5M220 fM230 1M220 2M230
  1M220 2M230 1M220 3M230 3M220 1M27 1M28 1M29 3M230 1M220 2M230 2M220 5M230 4M0 36N 2M0 1M7 1N
  fM0 1M9 2M0 1N 1M230 1M220 2M230 bM0 2N 2M0 1dN 4M0 37N 1M7 1N fM0 1M9 9N 9M0 2N 4M0 18N
  3M230 4M0 37N 2M7 fM0 4M9 bM0 14N 2M0 3N 1M0 bN 4M0 37N 1M7 1N fM0 3M9 12N 4M0 14N bM0 37N
  1M7 1N fM0 8M9 aM0 3N 4M0 1cN 1M0 3bN fM0 3M9 7N fM0 1aN 5M0 37N 1M7 1N fM0 8M9 1M84 2M91 aN
  4M0 1bN 3M0 38N 1M7 1N fM0 8M9 7M0 6N 4M0 dN 11M0 37N 2M9 1N fM0 1M9 9N 1M0 aN 4M0 1bN 4M0
  45N 5M9 17M0 cN 2M0 3dN 1M0 2N 4M0 2M103 5M9 8N 1M0 4M107 3M0 62N 1M0 2N 4M0 2M118 1M9 2M0 bN
  4M122 4M0 48N 2M220 1bN 1M220 1N 1M220 1N 1M216 4N 2M0 31N 1M129 2M130 6M132 4M130 2M0 2M130
  2M230 1M9 1N 2M230 5N 31M0 8N 1M220 64N cM0 1M7 1M0 2M9 4M0 17N 4M0 4N 3M0 1N 3M0 2N 7M0 3N
  4M0 dN bM0 1M220 1N 1M0 aN 4M0 2bfN 3M230 3b2N 2M0 bM9 13N 2M0 1M9 1dN eM0 12N eM0 36N 1cM0
  1M9 1M0 9N 3M230 a5N 2M0 22N 1M228 76N 19M0 1M222 1M230 5M220 d7N 1M230 1M220 5M0 37N bM0 1M9
  14M0 aM230 1M220 30N 5M230 6M220 2M230 1M220 1M0 2M220 2M230 2M220 5M230 1M220 12M230 3M220
  6M230 1M220 4M230 15M234 5M0 2fN 1M7 fM0 1M9 26N 1M230 1M220 7M230 cN 3M0 1eN 9M0 2M9 2M0 38N
  1M7 bM0 aM9 28N 13M0 4M7 95N 3M230 1N 1M1 5M220 2M230 4M220 1M230 1M0 7M1 4N 1M220 6N 1M230
  2N 1M0 2M230 c6N 2M230 1M220 7M230 1M220 2M230 1M234 1M214 1M220 1M202 25M230 1M232 2M228
  1M220 1M218 1M230 1M233 1M220 1M230 2M220 2cfN 2M230 2M1 4M230 3M1 2M230 4M0 1M230 3M0 2M1
  1M230 1M220 1M230 2M1 4M220 14M230 bebN 4M230 8cN 1M9 60N 20M230 22aN 1M218 1M228 1M232 1M222
  2M224 69N 4M8 75d2N 1M230 3M0 1N aM230 20N 2M230 50N 2M230 110N 1M0 3N 1M9 4N 1M0 17N 5M0 4N
  4M9 50N 2M0 32N 10M0 1M9 9M0 12N 12M230 dN 1M0 26N 5M0 3M220 19N cM0 cM9 21N 4M0 2fN 1M7 cM0
  1M9 24N 1M0 43N 17M0 3N 1M0 8N 4M0 2bN 3M0 32N 1M230 1N 2M230 1M220 2N 2M230 5N 2M230 1N
  1M230 29N 5M0 5N 1M0 bM9 e2N 8M0 1N 1M0 3M9 4f2eN 94M26 26eN 7M230 7M220 17M230 3b8N 83M220
  60N 1M220 95N aM230 681N cM0 1M220 1M0 1M230 28N 1M230 1M1 5M220 1M9 a5N 1M230 5M220 239N
  cM230 39N 5M230 13dN 2M230 4dN 2M220 1M0 3M220 46N 2M220 3M230 1M220 1M230 4M220 31N 1M230
  1M220 1M230 1M220 7aN 3M0 35N eM0 1M9 29N 1M9 2N 2M0 aN 1M9 3M0 2dN 9M0 1M9 1M7 7N eM0 30N
  3M230 24N cM0 3M9 fN 2M0 2cN 1M7 cN 3M0 30N dM0 1M9 8N 1M0 1M7 2M0 1N 2M0 5cN 9M0 1M9 1M7 1M0
  6N 1M0 2N 3fM0 5fN aM0 1M7 6M9 10N 5M0 36N 2M7 1N fM0 3M9 7N 6M0 5N 4M0 1aM230 38N 16M0 3M9
  1N 1M0 eN 1fM0 35N dM0 1M9 3M0 1M7 17N 1M230 51N 12M0 1M9 1M7 ebN 10M0 1M9 1M7 1bN 24M0 30N
  fM0 1M9 1M0 6aN bM0 1M9 1M7 65N eM0 5M9 fcN dM0 1M9 1M7 f5N dM0 2M9 1N 1M0 1N 1M0 1M7 8dN fM0
  1M9 3N 1cM0 1N aM0 28N 1M0 1M9 5M0 1N 4M0 8N 9M9 1N bM0 2eN fM0 1M9 c6N 60M0 6fN 10M0 1M9 52N
  6eM0 31N 11M0 1M7 1M0 2M9 1N 9M0 3aN dM0 1M9 15bN 4M0 9N 2M0 1N 1M0 30N dM0 2M9 17N 56M0
  1490N 1M0 6N 19M0 2cbeN 11M0 1M9 9c0N 5M1 3bN 7M230 418N 1M0 1N 42M0 51N cM0 2M6 4cabN 1M0
  1M1 1261N 50M0 215N 2M216 3M1 3N 1M226 dM216 8M220 2N 5M230 2M220 1eN 4M230 94N 3M230 7bbN
  37M0 4N 32M0 8N 1M0 eN 1M0 16N 465M0 100N 100M230 30N 7M230 177N 12M230 2cN 4M230 1fcN 2M232
  1M220 1M230 feN 1M230 1M220 f3N 1M230 2N 1M230 7N 2M230 5N 9M230 1d2N 52M220 22N 6M230 1M7
  f16b5N"

/-- How a character stands to the one before it. -/
def of (c : Char) : Combining :=
  Run.valueOf runs .base c

end Combining

/-- The combining class of a character; zero for bases. -/
def combiningClass (c : Char) : Nat :=
  match Combining.of c with
  | .base => 0
  | .mark order => order

/-- Whether a character is a mark. -/
def isMark (c : Char) : Bool :=
  Combining.of c != .base

/-- Whether a character is a virama, the mark that takes away the vowel of the
letter before it. -/
def isVirama (c : Char) : Bool :=
  combiningClass c = 9

end Realtime.Text
